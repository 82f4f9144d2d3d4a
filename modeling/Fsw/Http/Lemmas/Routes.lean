import Mathlib.Data.List.Find
import Fsw.Lib.SortedMap
import Fsw.Http.Impl.Server

namespace Fsw
namespace Http

open Buffer (str)

abbrev Registration := Bytes × Handler

def Registration.Spells (r : Registration) (path : Bytes) : Prop :=
  r.1.map tolower = path.map tolower

instance {r : Registration} {path : Bytes} : Decidable (r.Spells path) :=
  inferInstanceAs (Decidable (_ = _))

def mostRecent (regs : List Registration) (path : Bytes) : Option Handler :=
  (regs.reverse.find? fun r => r.Spells path).map Prod.snd

def mostRecentOf (regs : List Registration) (pattern : Bytes) : Option Handler :=
  (regs.reverse.find? fun r => r.1 = pattern).map Prod.snd

/--
The spelling of the path that comes first in the order of bytes has been registered with the handler
that has been registered last for any of them.
-/
def FirstIsMostRecent (regs : List Registration) (path : Bytes) : Prop :=
  ∀ r ∈ regs, r.Spells path → (∀ r' ∈ regs, r'.Spells path → ¬r'.1 < r.1) →
    mostRecentOf regs r.1 = mostRecent regs path

section Routes

variable {regs : List Registration} {path : Bytes} {handlers : SortedMap Bytes Handler}

theorem strncasecmp_eq_zero_iff {s₁ s₂ : Bytes} (h₁ : 0 ∉ s₁) (h₂ : 0 ∉ s₂)
    (hlength : s₁.length = s₂.length)
    : strncasecmp s₁ s₂ s₁.length = 0 ↔ s₁.map tolower = s₂.map tolower := by
  induction s₁ generalizing s₂ with
  | nil =>
    have hnil : s₂ = [] := List.eq_nil_of_length_eq_zero hlength.symm
    rw [hnil]
    exact ⟨fun _ => rfl, fun _ => rfl⟩
  | cons c₁ s₁ ih =>
    cases s₂ with
    | nil => contradiction
    | cons c₂ s₂ =>
      rw [List.mem_cons, not_or] at h₁ h₂
      have hne : ¬c₁ = 0 := fun heq => h₁.1 heq.symm
      have htail := ih h₁.2 h₂.2 (Nat.succ.inj hlength)
      have hcmp : strncasecmp (c₁ :: s₁) (c₂ :: s₂) (s₁.length + 1)
          = if tolower c₁ ≠ tolower c₂ then ((tolower c₁).toNat : Int) - (tolower c₂).toNat
            else if c₁ = 0 then 0 else strncasecmp s₁ s₂ s₁.length := rfl
      rw [List.length_cons, hcmp, List.map_cons, List.map_cons, List.cons.injEq]
      by_cases hsame : tolower c₁ = tolower c₂
      . rw [if_neg (not_not.mpr hsame), if_neg hne, htail]
        simp [hsame]
      . rw [if_pos hsame]
        have hnat : (tolower c₁).toNat ≠ (tolower c₂).toNat := fun heq =>
          hsame (UInt8.toNat_inj.mp heq)
        constructor
        . omega
        . intro h
          exact absurd h.1 hsame

theorem find_iff_spells {r : Registration} (hr : 0 ∉ r.1) (hpath : 0 ∉ path)
    : strncasecmp r.1 path r.1.length = 0 ∧ r.1.length = path.length ↔ r.Spells path := by
  constructor
  . rintro ⟨hcmp, hlength⟩
    exact (strncasecmp_eq_zero_iff hr hpath hlength).mp hcmp
  . intro hspells
    have hlength : r.1.length = path.length := by
      have := congrArg List.length hspells
      rw [List.length_map, List.length_map] at this
      exact this
    exact ⟨(strncasecmp_eq_zero_iff hr hpath hlength).mpr hspells, hlength⟩

def setHandlers (regs : List Registration) (handlers : SortedMap Bytes Handler)
    : SortedMap Bytes Handler :=
  regs.foldl (fun handlers r => Server.setHandler r.1 r.2 handlers) handlers

theorem mem_setHandlers {r : Registration}
    : r ∈ setHandlers regs [] ↔ mostRecentOf regs r.1 = some r.2 := by
  have hsorted : (setHandlers regs []).Sorted := SortedMap.sorted_foldl_insert List.Pairwise.nil
  have hfind : SortedMap.find? (setHandlers regs []) r.1 = mostRecentOf regs r.1 := by
    unfold mostRecentOf
    exact SortedMap.find?_foldl_insert.trans Option.or_none
  rw [← hfind]
  exact SortedMap.mem_iff_find? hsorted

theorem exists_mostRecentOf {pattern : Bytes} {handler : Handler}
    (h : mostRecentOf regs pattern = some handler)
    : (pattern, handler) ∈ regs := by
  rcases Option.map_eq_some_iff.mp h with ⟨r, hfind, hr⟩
  have hmem := List.mem_reverse.mp (List.mem_of_find?_eq_some hfind)
  have hpattern : r.1 = pattern := by
    simpa using List.find?_some hfind
  rw [← hpattern, ← hr]
  exact hmem

theorem isSome_mostRecentOf {r : Registration} (h : r ∈ regs)
    : (mostRecentOf regs r.1).isSome = true := by
  unfold mostRecentOf
  rw [Option.isSome_map, List.find?_isSome]
  exact ⟨r, List.mem_reverse.mpr h, decide_eq_true rfl⟩

theorem getHandler_eq (hregs : ∀ r ∈ regs, 0 ∉ r.1) (hpath : 0 ∉ path)
    : Server.getHandler path (setHandlers regs [])
        = (List.find? (fun r => Registration.Spells r path) (setHandlers regs [])).map
          Prod.snd := by
  unfold Server.getHandler
  rw [List.find?_congr]
  intro r hr
  apply decide_eq_decide.mpr
  apply find_iff_spells _ hpath
  exact hregs _ (exists_mostRecentOf (mem_setHandlers.mp hr))

theorem getHandler_setHandlers_iff (hregs : ∀ r ∈ regs, 0 ∉ r.1) (hpath : 0 ∉ path)
    : Server.getHandler path (setHandlers regs []) = mostRecent regs path
        ↔ FirstIsMostRecent regs path := by
  rw [getHandler_eq hregs hpath]
  cases hfind : List.find? (fun r => Registration.Spells r path) (setHandlers regs []) with
  | none =>
    have hnone : ∀ r ∈ regs, ¬r.Spells path := by
      intro r hr hspells
      rcases Option.isSome_iff_exists.mp (isSome_mostRecentOf hr) with ⟨handler, hhandler⟩
      have hmem : (r.1, handler) ∈ setHandlers regs [] := mem_setHandlers.mpr hhandler
      have hnot := List.find?_eq_none.mp hfind _ hmem
      rw [decide_eq_true_eq] at hnot
      exact hnot hspells
    have hrecent : mostRecent regs path = none := by
      unfold mostRecent
      rw [Option.map_eq_none_iff, List.find?_eq_none]
      intro r hr
      rw [decide_eq_true_eq]
      exact hnone r (List.mem_reverse.mp hr)
    rw [hrecent]
    constructor
    . intro _ r hr hspells
      exact absurd hspells (hnone r hr)
    . intro _
      rfl
  | some e =>
    have hmem := List.mem_of_find?_eq_some hfind
    have he := mem_setHandlers.mp hmem
    have hspells : Registration.Spells e path := by
      simpa using List.find?_some hfind
    have hsorted : (setHandlers regs []).Sorted := SortedMap.sorted_foldl_insert List.Pairwise.nil
    have hleast : ∀ r ∈ regs, r.Spells path → r.1 = e.1 ∨ e.1 < r.1 := by
      intro r hr hr'
      rcases Option.isSome_iff_exists.mp (isSome_mostRecentOf hr) with ⟨handler, hhandler⟩
      have hmem' : (r.1, handler) ∈ setHandlers regs [] := mem_setHandlers.mpr hhandler
      rcases hsorted.least_of_find? hfind hmem' (decide_eq_true hr') with heq | hlt
      . rw [← heq]
        exact .inl rfl
      . exact .inr hlt
    rw [Option.map_some, ← he]
    constructor
    . intro heq r hr hr' hfirst
      rcases hleast r hr hr' with hsame | hlt
      . rw [hsame, heq]
      . exact absurd hlt (hfirst _ (exists_mostRecentOf he) hspells)
    . intro hfirst
      apply hfirst e (exists_mostRecentOf he) hspells
      intro r hr hr' hlt
      rcases hleast r hr hr' with hsame | hgt
      . rw [hsame] at hlt
        exact List.lt_irrefl _ hlt
      . exact List.lt_asymm hlt hgt

end Routes

namespace Server

def setHttpHandlers (server : Server) (regs : List Registration) : Server :=
  regs.foldl (fun server r => server.setHttpHandler r.1 r.2) server

def setWebsocketHandlers (server : Server) (regs : List Registration) : Server :=
  regs.foldl (fun server r => server.setWebsocketHandler r.1 r.2) server

variable {server : Server} {regs : List Registration}

theorem httpHandlers_setHttpHandlers
    : (server.setHttpHandlers regs).httpHandlers = setHandlers regs server.httpHandlers := by
  induction regs generalizing server with
  | nil => rfl
  | cons r regs ih => exact ih

theorem websocketHandlers_setWebsocketHandlers
    : (server.setWebsocketHandlers regs).websocketHandlers
        = setHandlers regs server.websocketHandlers := by
  induction regs generalizing server with
  | nil => rfl
  | cons r regs ih => exact ih

theorem routes_agree_iff (server : Server) (hhttp : server.httpHandlers = [])
    (hwebsocket : server.websocketHandlers = []) (regs : List Registration) (path : Bytes)
    (hregs : ∀ r ∈ regs, 0 ∉ r.1) (hpath : 0 ∉ path)
    : ((server.setHttpHandlers regs).getHttpHandler path = mostRecent regs path
        ↔ FirstIsMostRecent regs path)
        ∧ ((server.setWebsocketHandlers regs).getWebsocketHandler path = mostRecent regs path
          ↔ FirstIsMostRecent regs path) := by
  unfold getHttpHandler getWebsocketHandler
  rw [httpHandlers_setHttpHandlers, websocketHandlers_setWebsocketHandlers, hhttp, hwebsocket]
  exact ⟨getHandler_setHandlers_iff hregs hpath, getHandler_setHandlers_iff hregs hpath⟩

end Server

def bareServer : Server where
  settings := []
  httpHandlers := []
  websocketHandlers := []
  fs := ⟨fun _ => false, fun _ => 0, fun _ => []⟩
  sha1 := fun _ => []

def answers (status : Int) : Handler :=
  fun _ => [.setStatus status, .endResponse none 0]

theorem routes_agree_upper
    : (bareServer.setHttpHandlers [(str "/a", answers 200), (str "/A", answers 404)]).getHttpHandler
        (str "/a")
        = some (answers 404) := by
  have hagree :=
    (Server.routes_agree_iff bareServer rfl rfl [(str "/a", answers 200), (str "/A", answers 404)]
    (str "/a") (by decide +kernel) (by decide +kernel)).1
  apply hagree.mpr
  intro r hr _ hfirst
  rcases List.mem_cons.mp hr with rfl | hr
  . exact absurd (by decide) (hfirst (str "/A", answers 404) (by simp) (by decide))
  . rw [List.mem_singleton.mp hr]
    rfl

-- Upper case comes before lower case.
theorem routes_disagree_lower
    : (bareServer.setHttpHandlers [(str "/A", answers 404), (str "/a", answers 200)]).getHttpHandler
        (str "/a")
        = some (answers 404)
      ∧ mostRecent [(str "/A", answers 404), (str "/a", answers 200)] (str "/a")
          = some (answers 200)
      ∧ answers 404 ≠ answers 200 := by
  refine ⟨rfl, rfl, ?_⟩
  intro heq
  have := congrFun heq (.new ⟨0, 0, 0, ⟨0, 0⟩, true⟩)
  contradiction

end Http
end Fsw
