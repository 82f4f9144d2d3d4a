import Fsw.Http.Lemmas.Ctx
import Mathlib.Data.List.Induction

/-!
This module contains how much of the requests on a connection is still visible in the ones after
them. They share a context, and with it the read buffer and the current header name, neither of
which is reset in between. `Ctx::clear` does not reset the method either, and it is not set by
requests other than `GET` and `POST`.
-/

namespace Fsw
namespace Http

instance (r : Read) : Decidable r.InRange :=
  decidable_of_iff
    ((∀ cb ∈ r.callbacks, ∀ s ∈ cb.slice?, s.pos + s.length ≤ r.data.length)
      ∧ r.data.length ≤ READ_BUF_MAX_SIZE)
    ⟨fun h => ⟨h.1, h.2⟩, fun h => ⟨h.slices, h.data⟩⟩

-- The value of a header comes after its name.
def fieldFirst : List Callback → Bool
  | [] => true
  | .headerField _ :: _ => true
  | .headerValue _ :: _ => false
  | _ :: cbs => fieldFirst cbs

/--
The reads in which a complete request arrives. `info` is what `http_parser` reports about it once
its headers are complete.
-/
structure Message where
  reads : List Read
  info : Parser
  inRange : ∀ r ∈ reads, r.InRange
  parsers : reads.flatMap Read.parsers = [info]
  urls : reads.flatMap Read.urls ≠ []
  fieldFirst : fieldFirst (reads.flatMap Read.callbacks)

def Message.HasBody (m : Message) : Prop :=
  m.reads.flatMap Read.bodies ≠ []

instance (m : Message) : Decidable m.HasBody :=
  inferInstanceAs (Decidable (_ ≠ _))

def Parser.GetOrPost (parser : Parser) : Prop :=
  parser.method = .get ∨ parser.method = .post

instance (parser : Parser) : Decidable parser.GetOrPost :=
  inferInstanceAs (Decidable (_ ∨ _))

theorem Parser.methodName_eq_none {parser : Parser}
    : parser.methodName = none ↔ ¬parser.GetOrPost := by
  cases parser with
  | mk method => cases method <;> simp [methodName, GetOrPost]

theorem Parser.getOrPost_of_methodName {parser : Parser} {name : Bytes}
    (h : parser.methodName = some name)
    : parser.GetOrPost := by
  by_contra hnot
  rw [methodName_eq_none.mpr hnot] at h
  contradiction

theorem Parser.methodName_ne_nil {parser : Parser} {name : Bytes}
    (h : parser.methodName = some name)
    : name ≠ [] := by
  unfold methodName at h
  split at h
  . injection h with h
    subst h
    decide
  . injection h with h
    subst h
    decide
  . contradiction

-- The read buffers of two connections that have received the same data at places below `hi`.
def Agree (hi : Nat) (mem₁ mem₂ : Bytes) : Prop :=
  mem₁.take hi = mem₂.take hi

theorem Slice.of_eq_of_agree {s : Slice} {hi : Nat} {mem₁ mem₂ : Bytes} (hs : s.pos + s.length ≤ hi)
    (h : Agree hi mem₁ mem₂)
    : s.of mem₁ = s.of mem₂ := by
  have hof : ∀ mem : Bytes, s.of mem = s.of (mem.take hi) := by
    intro mem
    unfold Slice.of
    rw [List.drop_take, List.take_take]
    congr 1
    omega
  rw [hof mem₁, hof mem₂, h]

theorem Agree.write {hi : Nat} {mem₁ mem₂ : Bytes} (h : Agree hi mem₁ mem₂) (data : Bytes)
    : Agree (max hi data.length) (mem₁.write 0 data) (mem₂.write 0 data) := by
  have hdrop : ∀ mem : Bytes, (mem.drop data.length).take (max hi data.length - data.length)
      = (mem.take hi).drop data.length := by
    intro mem
    rw [List.drop_take]
    congr 1
    omega
  unfold Agree Bytes.write
  simp only [List.take_zero, List.nil_append, Nat.zero_add, List.take_append, hdrop]
  rw [h]

section HeaderWrites

variable {hi : Nat} {mem₁ mem₂ : Bytes} {name₁ name₂ : Slice}

/--
The current header names of two connections are the same and in range, or there will be new ones
before they are used.
-/
def SameName (hi : Nat) (name₁ name₂ : Slice) (cbs : List Callback) : Prop :=
  name₁ = name₂ ∧ name₁.pos + name₁.length ≤ hi ∨ fieldFirst cbs

theorem SameName.mono {hi' : Nat} {cbs : List Callback} (h : SameName hi name₁ name₂ cbs)
    (hle : hi ≤ hi')
    : SameName hi' name₁ name₂ cbs := by
  rcases h with ⟨heq, hname⟩ | hfirst
  . left
    exact ⟨heq, Nat.le_trans hname hle⟩
  . right
    exact hfirst

theorem headerWrites_eq_of_agree {cbs rest : List Callback} (hmem : Agree hi mem₁ mem₂)
    (hcbs : ∀ cb ∈ cbs, ∀ s ∈ cb.slice?, s.pos + s.length ≤ hi)
    (hname : SameName hi name₁ name₂ (cbs ++ rest))
    : headerWrites mem₁ name₁ cbs = headerWrites mem₂ name₂ cbs
        ∧ SameName hi (lastField name₁ cbs) (lastField name₂ cbs) rest := by
  induction cbs generalizing name₁ name₂ with
  | nil => exact ⟨rfl, hname⟩
  | cons cb cbs ih =>
    have hrest : ∀ cb ∈ cbs, ∀ s ∈ cb.slice?, s.pos + s.length ≤ hi := by
      intro cb hcb
      apply hcbs cb (List.mem_cons_of_mem _ hcb)
    cases cb with
    | headerField s =>
      have hs : s.pos + s.length ≤ hi := hcbs _ List.mem_cons_self s rfl
      have := ih hrest (Or.inl ⟨rfl, hs⟩)
      simp only [lastField, List.filterMap_cons, Callback.headerField?, List.getLast?_cons,
        Option.getD_some]
      exact this
    | headerValue s =>
      rcases hname with ⟨heq, hin⟩ | hfirst
      . subst heq
        have hs : s.pos + s.length ≤ hi := hcbs _ List.mem_cons_self s rfl
        have := ih hrest (Or.inl ⟨rfl, hin⟩)
        refine ⟨?_, this.2⟩
        unfold headerWrites
        rw [Slice.of_eq_of_agree hin hmem, Slice.of_eq_of_agree hs hmem, this.1]
      . contradiction
    | _ => apply ih hrest hname

theorem readWrites_eq_of_agree {rs : List Read} (hmem : Agree hi mem₁ mem₂)
    (hrs : ∀ r ∈ rs, r.InRange) (hname : SameName hi name₁ name₂ (rs.flatMap Read.callbacks))
    : readWrites mem₁ name₁ rs = readWrites mem₂ name₂ rs := by
  induction rs generalizing hi mem₁ mem₂ name₁ name₂ with
  | nil => rfl
  | cons r rs ih =>
    have hcbs : ∀ cb ∈ r.callbacks, ∀ s ∈ cb.slice?, s.pos + s.length ≤ max hi r.data.length := by
      intro cb hcb s hs
      have := (hrs r List.mem_cons_self).slices cb hcb s hs
      omega
    have hstep := headerWrites_eq_of_agree (hmem.write r.data) hcbs
      (hname.mono (Nat.le_max_left hi r.data.length))
    unfold readWrites
    rw [hstep.1, ih (hmem.write r.data) (fun r hr => hrs r (List.mem_cons_of_mem _ hr)) hstep.2]

end HeaderWrites

namespace Ctx

theorem readAll_header_eq {c₁ c₂ : Ctx} {m : Message} (h : c₁.request.header = c₂.request.header)
    : (c₁.readAll m.reads).request.header = (c₂.readAll m.reads).request.header := by
  have hmem : Agree 0 c₁.readBuf c₂.readBuf := rfl
  rw [readAll_header, readAll_header, h,
    readWrites_eq_of_agree hmem m.inRange (Or.inr m.fieldFirst)]

theorem readAll_request_eq_iff {c₁ c₂ : Ctx} {m : Message}
    (hbody : c₁.request.body = c₂.request.body) (hheader : c₁.request.header = c₂.request.header)
    : (c₁.readAll m.reads).request = (c₂.readAll m.reads).request
      ↔ (m.info.GetOrPost ∨ c₁.request.method = c₂.request.method)
        ∧ (m.HasBody ∨ c₁.request.bodyLength = c₂.request.bodyLength) := by
  rcases hurls : (m.reads.flatMap Read.urls).getLast? with _ | url
  . rw [List.getLast?_eq_none_iff] at hurls
    apply absurd hurls m.urls
  . have hext : ∀ r₁ r₂ : Request, r₁ = r₂ ↔ r₁.method = r₂.method ∧ r₁.version = r₂.version
        ∧ r₁.path = r₂.path ∧ r₁.pathLen = r₂.pathLen ∧ r₁.body = r₂.body
        ∧ r₁.bodyLength = r₂.bodyLength ∧ r₁.header = r₂.header := by
      intro r₁ r₂
      cases r₁
      cases r₂
      simp
    have hmethod : (c₁.readAll m.reads).request.method = (c₂.readAll m.reads).request.method
        ↔ m.info.GetOrPost ∨ c₁.request.method = c₂.request.method := by
      rw [readAll_method, readAll_method, m.parsers]
      cases hname : m.info.methodName with
      | none =>
        rw [Parser.methodName_eq_none] at hname
        simp [Parser.methodName_eq_none.mpr hname, hname]
      | some name =>
        simp [hname, Parser.getOrPost_of_methodName hname]
    have hlength : (c₁.readAll m.reads).request.bodyLength = (c₂.readAll m.reads).request.bodyLength
        ↔ m.HasBody ∨ c₁.request.bodyLength = c₂.request.bodyLength := by
      rw [readAll_bodyLength m.inRange, readAll_bodyLength m.inRange]
      unfold Message.HasBody
      rcases hbodies : (m.reads.flatMap Read.bodies).getLast? with _ | body
      . simp [List.getLast?_eq_none_iff.mp hbodies]
      . have : m.reads.flatMap Read.bodies ≠ [] := by
          intro hnil
          rw [hnil] at hbodies
          contradiction
        simp [this]
    rw [hext, hmethod, hlength, readAll_header_eq hheader, readAll_version,
      readAll_version, m.parsers,
      readAll_path m.inRange, readAll_path m.inRange, readAll_pathLen m.inRange,
      readAll_pathLen m.inRange, readAll_body m.inRange, readAll_body m.inRange, hurls, hbody]
    simp

theorem readAll_method_eq {ctx : Ctx} {m : Message} (h : ¬m.info.GetOrPost)
    : (ctx.readAll m.reads).request.method = ctx.request.method := by
  rw [readAll_method, m.parsers]
  simp [Parser.methodName_eq_none.mpr h]

theorem readAll_bodyLength_eq {ctx : Ctx} {m : Message} (h : ¬m.HasBody)
    : (ctx.readAll m.reads).request.bodyLength = ctx.request.bodyLength := by
  have hbodies : m.reads.flatMap Read.bodies = [] := by
    unfold Message.HasBody at h
    apply not_not.mp h
  rw [readAll_bodyLength m.inRange, hbodies]
  rfl

theorem readAll_keepAlive_eq {ctx : Ctx} {m : Message}
    : (ctx.readAll m.reads).keepAlive = m.info.keepAlive := by
  rw [readAll_keepAlive, m.parsers]
  rfl

def parsed (ctx : Ctx) (ms : List Message) : Ctx :=
  ms.foldl (fun ctx m => (ctx.readAll m.reads).clear) ctx

section Parsed

variable (u : Uninit) (ms : List Message)

theorem parsed_snoc (ctx : Ctx) (m : Message)
    : ctx.parsed (ms ++ [m]) = ((ctx.parsed ms).readAll m.reads).clear := by
  simp [parsed]

theorem parsed_request
    : ((new u).parsed ms).request.body = none ∧ ((new u).parsed ms).request.header = []
      ∧ ((new u).parsed ms).request.bodyLength = if ms = [] then u.bodyLength else 0 := by
  cases ms using List.reverseRecOn with
  | nil => exact ⟨rfl, rfl, rfl⟩
  | append_singleton ms m =>
    rw [parsed_snoc, if_neg (by simp)]
    exact ⟨rfl, rfl, rfl⟩

theorem parsed_method_eq_nil
    : ((new u).parsed ms).request.method = [] ↔ ∀ m ∈ ms, ¬m.info.GetOrPost := by
  induction ms using List.reverseRecOn with
  | nil => simp [parsed, new, Request.new]
  | append_singleton ms m ih =>
    have hmethod : ((new u).parsed (ms ++ [m])).request.method
        = (m.info.methodName.map id).getD ((new u).parsed ms).request.method := by
      rw [parsed_snoc]
      apply Eq.trans readAll_method
      rw [m.parsers]
      cases hname : m.info.methodName <;> simp [hname]
    rw [hmethod]
    cases hname : m.info.methodName with
    | none =>
      rw [Parser.methodName_eq_none] at hname
      simp [ih, or_imp, forall_and, hname]
    | some name =>
      have hnil := Parser.methodName_ne_nil hname
      simp [hnil, or_imp, forall_and, Parser.getOrPost_of_methodName hname]

end Parsed

/--
A request is the same as on a new connection if and only if it sets the method, or nothing before it
has done so, and it sets the length of the body, or that of a new connection happens to be the one
in the context.
-/
theorem parsed_isolated (u₀ u : Uninit) (ms : List Message) (m : Message)
    : ((((new u₀).parsed ms).readAll m.reads).request = ((new u).readAll m.reads).request
        ∧ (((new u₀).parsed ms).readAll m.reads).keepAlive = ((new u).readAll m.reads).keepAlive)
      ↔ (m.info.GetOrPost ∨ ∀ m' ∈ ms, ¬m'.info.GetOrPost)
        ∧ (m.HasBody ∨ u.bodyLength = if ms = [] then u₀.bodyLength else 0) := by
  have hprev := parsed_request u₀ ms
  have hkeep : (((new u₀).parsed ms).readAll m.reads).keepAlive
    = ((new u).readAll m.reads).keepAlive := by
    rw [readAll_keepAlive_eq, readAll_keepAlive_eq]
  rw [and_iff_left hkeep, readAll_request_eq_iff hprev.1 hprev.2.1, hprev.2.2]
  apply and_congr
  . apply or_congr Iff.rfl
    apply parsed_method_eq_nil u₀ ms
  . apply or_congr Iff.rfl
    exact eq_comm

end Ctx

def Uninit.zero : Uninit where
  version := 0
  pathLen := 0
  bodyLength := 0
  currentHeaderName := ⟨0, 0⟩
  keepAlive := false

def rootRequest (method : Method) (line : Bytes) : Read where
  data := line ++ Buffer.str "\r\n\r\n"
  callbacks :=
    [.messageBegin, .url ⟨4, 1⟩, .headersComplete ⟨method, 1, 1, true⟩, .messageComplete]

def getRoot : Message where
  reads := [rootRequest .get (Buffer.str "GET / HTTP/1.1")]
  info := ⟨.get, 1, 1, true⟩
  inRange := by decide
  parsers := by decide
  urls := by decide
  fieldFirst := by decide

def putRoot : Message where
  reads := [rootRequest .put (Buffer.str "PUT / HTTP/1.1")]
  info := ⟨.put, 1, 1, true⟩
  inRange := by decide
  parsers := by decide
  urls := by decide
  fieldFirst := by decide

-- After a `GET`, a `PUT` is taken for another one.
theorem put_after_get
    : (((Ctx.new .zero).parsed [getRoot]).readAll putRoot.reads).request.method = Buffer.str "GET"
      ∧ ((Ctx.new .zero).readAll putRoot.reads).request.method = Buffer.str ""
      ∧ (((Ctx.new .zero).parsed [getRoot]).readAll putRoot.reads).request
          ≠ ((Ctx.new .zero).readAll putRoot.reads).request := by
  decide

end Http
end Fsw
