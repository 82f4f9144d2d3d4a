import Fsw.Hpack.Impl.Deflate
import Fsw.Hpack.Lemmas.Table

namespace Fsw
namespace Hpack

abbrev Field := Bytes × Bytes

namespace Field

def room (f : Field) : Nat :=
  entryRoom f.1.length f.2.length

def toHdNv (f : Field) : HdNv :=
  ⟨f.1, f.2, lookupToken f.1, NV_FLAG_NONE⟩

end Field

def staticFields : List Field :=
  staticTable.map fun ent => (ent.name, ent.value)

theorem length_staticFields : staticFields.length = STATIC_TABLE_LENGTH := by
  rw [staticFields, List.length_map, length_staticTable]

-- Both tables one behind the other, where the first index is `0`
def lookup (dyn : List Field) (idx : Nat) : Option Field :=
  (staticFields ++ dyn)[idx]?

theorem lookup_static {dyn : List Field} {idx : Nat} (h : idx < STATIC_TABLE_LENGTH)
    : lookup dyn idx = (staticTable[idx]?).map fun ent => (ent.name, ent.value) := by
  rw [lookup, List.getElem?_append_left (by rw [length_staticFields]; exact h),
    staticFields, List.getElem?_map]

theorem lookup_dyn {dyn : List Field} (i : Nat)
    : lookup dyn (i + STATIC_TABLE_LENGTH) = dyn[i]? := by
  rw [lookup, List.getElem?_append_right (by rw [length_staticFields]; omega), length_staticFields,
    Nat.add_sub_cancel]

def hashOfName (name : Bytes) : BitVec 32 :=
  match Deflater.hashOf ⟨name, [], 0⟩ (lookupToken name) with
  | .ok hash => hash
  | .error _ => 0

theorem hashOf_eq (nv : Nv)
    : Deflater.hashOf nv (lookupToken nv.name) = .ok (hashOfName nv.name) := by
  rw [hashOfName, Deflater.hashOf, Deflater.hashOf]
  split
  . rfl
  . next hne =>
    split
    . next hle =>
      obtain ⟨ent, hent, -⟩ := staticTable_lookupToken hne hle
      rw [hent]
    . rfl

structure Context.Lists (context : Context) (map : Option HdMap) (dyn : List Field)
    (ents : List Entry) : Prop where
  stores : context.Stores map ents
  nv : ents.map (·.nv) = dyn.map Field.toHdNv
  hash : map.isSome → ∀ ent ∈ ents, ent.hash = hashOfName ent.nv.name

variable {context : Context} {map : Option HdMap} {m : HdMap} {dyn : List Field}
  {ents : List Entry} {nv : Nv}

theorem Context.Lists.length (h : context.Lists map dyn ents) : ents.length = dyn.length := by
  have := congrArg List.length h.nv
  rw [List.length_map, List.length_map] at this
  exact this

theorem Context.Lists.getMaxIndex (h : context.Lists map dyn ents)
    : context.getMaxIndex = dyn.length + STATIC_TABLE_LENGTH := by
  rw [Context.getMaxIndex, h.stores.ring.len, h.length]

theorem Context.Lists.getElem? (h : context.Lists map dyn ents) (i : Nat)
    : (ents[i]?).map (·.nv) = (dyn[i]?).map Field.toHdNv := by
  rw [← List.getElem?_map, h.nv, List.getElem?_map]

theorem Context.Lists.tableGet {idx : Nat} {f : Field} (h : context.Lists map dyn ents)
    (hf : lookup dyn idx = some f)
    : context.tableGet idx = .ok f.toHdNv := by
  have hlt : idx < context.getMaxIndex := by
    have := (List.getElem?_eq_some_iff.mp hf).1
    rw [List.length_append, length_staticFields] at this
    rw [h.getMaxIndex]
    omega
  rw [Context.tableGet, if_pos hlt]
  by_cases hidx : idx < STATIC_TABLE_LENGTH
  . rw [if_neg (by omega)]
    rw [lookup_static hidx, Option.map_eq_some_iff] at hf
    obtain ⟨ent, hent, rfl⟩ := hf
    have htoken := token_staticTable ent (List.mem_of_getElem? hent)
    rw [hent]
    dsimp only
    rw [← htoken]
    rfl
  . rw [if_pos (by omega)]
    obtain ⟨i, rfl⟩ := Nat.exists_eq_add_of_le' (Nat.le_of_not_lt hidx)
    rw [lookup_dyn] at hf
    have hent := h.getElem? i
    rw [hf, Option.map_some, Option.map_eq_some_iff] at hent
    obtain ⟨ent, hent, hnv⟩ := hent
    obtain ⟨hi, hget⟩ := List.getElem?_eq_some_iff.mp hent
    rw [Nat.add_sub_cancel, h.stores.ring.get hi, ok_bind, hget, hnv]
    rfl

-- What makes `hd_map_find` stop at an entry
structure Hit (nv : Nv) (token : Int) (hash : BitVec 32) (ent : Entry) : Prop where
  same : token = ent.nv.token
  name : token = -1 → hash = ent.hash ∧ ent.nv.name = nv.name

section Find

variable {token : Int} {hash : BitVec 32} {nameOnly : Bool} {res : Option Entry}
  {ps : List Entry} {p : Entry}

theorem nameEq_iff {a : HdNv} : nameEq a nv = true ↔ a.name = nv.name := by
  rw [nameEq, Bool.and_eq_true, decide_eq_true_eq, decide_eq_true_eq]
  exact ⟨And.right, fun h => ⟨congrArg _ h, h⟩⟩

theorem valueEq_iff {a : HdNv} : valueEq a nv = true ↔ a.value = nv.value := by
  rw [valueEq, Bool.and_eq_true, decide_eq_true_eq, decide_eq_true_eq]
  exact ⟨And.right, fun h => ⟨congrArg _ h, h⟩⟩

theorem not_hit_iff
    : (token ≠ p.nv.token || (token = -1 && (hash ≠ p.hash || !nameEq p.nv nv))) = true
        ↔ ¬Hit nv token hash p := by
  constructor
  . intro h hhit
    simp only [Bool.or_eq_true, Bool.and_eq_true, decide_eq_true_eq, Bool.not_eq_true'] at h
    rcases h with htoken | ⟨htoken, hhash | hname⟩
    . exact htoken hhit.same
    . exact hhash (hhit.name htoken).1
    . rw [nameEq_iff.mpr (hhit.name htoken).2] at hname
      cases hname
  . intro h
    by_contra hnot
    simp only [Bool.or_eq_true, Bool.and_eq_true, decide_eq_true_eq,
      Bool.not_eq_true', not_or, not_and, not_not, Bool.not_eq_false] at hnot
    exact h ⟨hnot.1, fun htoken => ⟨(hnot.2 htoken).1, nameEq_iff.mp (hnot.2 htoken).2⟩⟩

-- What the loop returns, from `res` being `none` on
inductive Found (nv : Nv) (token : Int) (hash : BitVec 32) (nameOnly : Bool) (ps : List Entry)
    : Option Entry → Bool → Prop where
  | none (h : ∀ p ∈ ps, ¬Hit nv token hash p) : Found nv token hash nameOnly ps none false
  | name {p : Entry} (hmem : p ∈ ps) (hhit : Hit nv token hash p)
      (h : nameOnly = false → ∀ p ∈ ps, Hit nv token hash p → p.nv.value ≠ nv.value)
      : Found nv token hash nameOnly ps (some p) false
  | exact {p : Entry} (hmem : p ∈ ps) (hhit : Hit nv token hash p) (hvalue : p.nv.value = nv.value)
      (h : nameOnly = false)
      : Found nv token hash nameOnly ps (some p) true

theorem findFrom_some (q : Entry) (ps : List Entry)
    : (HdMap.findFrom nv token hash nameOnly (some q) ps = (some q, false)
        ∧ ∀ p ∈ ps, Hit nv token hash p → p.nv.value ≠ nv.value)
      ∨ ∃ p ∈ ps, Hit nv token hash p ∧ p.nv.value = nv.value
          ∧ HdMap.findFrom nv token hash nameOnly (some q) ps = (some p, true) := by
  induction ps with
  | nil => exact .inl ⟨rfl, fun _ hp => absurd hp List.not_mem_nil⟩
  | cons p ps ih =>
    rw [HdMap.findFrom]
    have hrest (hp : ¬(Hit nv token hash p ∧ p.nv.value = nv.value))
        : (HdMap.findFrom nv token hash nameOnly (some q) ps = (some q, false)
            ∧ ∀ p' ∈ p :: ps, Hit nv token hash p' → p'.nv.value ≠ nv.value)
          ∨ ∃ p' ∈ p :: ps, Hit nv token hash p' ∧ p'.nv.value = nv.value
              ∧ HdMap.findFrom nv token hash nameOnly (some q) ps = (some p', true) := by
      rcases ih with ⟨heq, hnone⟩ | ⟨p', hp', hfound⟩
      . refine .inl ⟨heq, ?_⟩
        intro p' hp' hhit hvalue
        rcases List.mem_cons.mp hp' with rfl | hp'
        . exact hp ⟨hhit, hvalue⟩
        . exact hnone p' hp' hhit hvalue
      . exact .inr ⟨p', List.mem_cons_of_mem p hp', hfound⟩
    split
    . next hskip => exact hrest (fun hboth => not_hit_iff.mp hskip hboth.1)
    . next hhit =>
      have hhit : Hit nv token hash p := by
        by_contra hnot
        exact hhit (not_hit_iff.mpr hnot)
      rw [if_neg (by simp)]
      split
      . next hvalue => exact .inr ⟨p, List.mem_cons_self, hhit, valueEq_iff.mp hvalue, rfl⟩
      . next hvalue => exact hrest (fun hboth => hvalue (valueEq_iff.mpr hboth.2))

theorem found_findFrom
    : Found nv token hash nameOnly ps (HdMap.findFrom nv token hash nameOnly none ps).1
        (HdMap.findFrom nv token hash nameOnly none ps).2 := by
  induction ps with
  | nil => exact .none fun _ hp => absurd hp List.not_mem_nil
  | cons p ps ih =>
    rw [HdMap.findFrom]
    split
    . next hskip =>
      have hskip := not_hit_iff.mp hskip
      generalize HdMap.findFrom nv token hash nameOnly none ps = r at ih
      obtain ⟨ent, found⟩ := r
      cases ih with
      | none h =>
        refine .none ?_
        intro p' hp'
        rcases List.mem_cons.mp hp' with rfl | hp'
        . exact hskip
        . exact h p' hp'
      | name hmem hhit h =>
        refine .name (List.mem_cons_of_mem p hmem) hhit ?_
        intro hname p' hp' hhit'
        rcases List.mem_cons.mp hp' with rfl | hp'
        . exact absurd hhit' hskip
        . exact h hname p' hp' hhit'
      | exact hmem hhit hvalue h => exact .exact (List.mem_cons_of_mem p hmem) hhit hvalue h
    . next hhit =>
      have hhit : Hit nv token hash p := by
        by_contra hnot
        exact hhit (not_hit_iff.mpr hnot)
      cases nameOnly with
      | true => exact .name List.mem_cons_self hhit fun h => by cases h
      | false =>
        rw [if_neg (by simp)]
        split
        . next hvalue => exact .exact List.mem_cons_self hhit (valueEq_iff.mp hvalue) rfl
        . next hvalue =>
          rcases findFrom_some p ps with ⟨heq, hnone⟩ | ⟨p', hp', hhit', hvalue', heq⟩
          . change Found _ _ _ _ _ (HdMap.findFrom nv token hash false (some p) ps).1
              (HdMap.findFrom nv token hash false (some p) ps).2
            rw [heq]
            refine .name List.mem_cons_self hhit ?_
            intro _ p' hp' hhit' hvalue'
            rcases List.mem_cons.mp hp' with rfl | hp'
            . exact hvalue (valueEq_iff.mpr hvalue')
            . exact hnone p' hp' hhit' hvalue'
          . change Found _ _ _ _ _ (HdMap.findFrom nv token hash false (some p) ps).1
              (HdMap.findFrom nv token hash false (some p) ps).2
            rw [heq]
            exact .exact (List.mem_cons_of_mem p hp') hhit' hvalue' rfl

end Find

inductive Searched (dyn : List Field) (nv : Nv) (nameOnly : Bool) : SearchResult → Prop where
  | none (h : ∀ idx f, lookup dyn idx = some f → f.1 ≠ nv.name)
      : Searched dyn nv nameOnly ⟨none, false⟩
  | name {idx : Nat} {f : Field} (hf : lookup dyn idx = some f) (hname : f.1 = nv.name)
      (h : nameOnly = false → ∀ idx, lookup dyn idx ≠ some (nv.name, nv.value))
      : Searched dyn nv nameOnly ⟨some idx, false⟩
  | exact {idx : Nat} (hf : lookup dyn idx = some (nv.name, nv.value)) (h : nameOnly = false)
      : Searched dyn nv nameOnly ⟨some idx, true⟩

theorem lookup_cases {idx : Nat} {f : Field} (h : lookup dyn idx = some f)
    : (∃ ent ∈ staticTable, ent.name = f.1 ∧ ent.value = f.2) ∨ f ∈ dyn := by
  by_cases hidx : idx < STATIC_TABLE_LENGTH
  . rw [lookup_static hidx, Option.map_eq_some_iff] at h
    obtain ⟨ent, hent, rfl⟩ := h
    exact .inl ⟨ent, List.mem_of_getElem? hent, rfl, rfl⟩
  . obtain ⟨i, rfl⟩ := Nat.exists_eq_add_of_le' (Nat.le_of_not_lt hidx)
    rw [lookup_dyn] at h
    exact .inr (List.mem_of_getElem? h)

theorem lookup_of_staticTable {idx : Nat} {ent : StaticEntry} (h : staticTable[idx]? = some ent)
    : lookup dyn idx = some (ent.name, ent.value) := by
  have hlt := (List.getElem?_eq_some_iff.mp h).1
  rw [length_staticTable] at hlt
  rw [lookup_static hlt, h, Option.map_some]

section

variable (h : context.Lists (some m) dyn ents) {ent : Entry}

include h

theorem Context.Lists.nv_of_mem (hent : ent ∈ ents) : ∃ f ∈ dyn, ent.nv = f.toHdNv := by
  have := List.mem_map_of_mem (f := (·.nv)) hent
  rw [h.nv, List.mem_map] at this
  obtain ⟨f, hf, heq⟩ := this
  exact ⟨f, hf, heq.symm⟩

theorem Context.Lists.of_mem {f : Field} (hf : f ∈ dyn) : ∃ ent ∈ ents, ent.nv = f.toHdNv := by
  have := List.mem_map_of_mem (f := Field.toHdNv) hf
  rw [← h.nv, List.mem_map] at this
  exact this

theorem Context.Lists.hit_iff (hent : ent ∈ ents)
    : Hit nv (lookupToken nv.name) (hashOfName nv.name) ent ↔ ent.nv.name = nv.name := by
  obtain ⟨f, -, hf⟩ := h.nv_of_mem hent
  have htoken : ent.nv.token = lookupToken ent.nv.name := by rw [hf]; rfl
  constructor
  . intro hhit
    by_cases hne : lookupToken nv.name = -1
    . exact (hhit.name hne).2
    . have hsame := hhit.same
      rw [htoken] at hsame
      exact (lookupToken_inj hsame hne).symm
  . intro hname
    refine ⟨by rw [htoken, hname], fun _ => ⟨?_, hname⟩⟩
    rw [h.hash rfl ent hent, hname]

theorem Context.Lists.mem_bucket
    : ent ∈ m (HdMap.bucket (hashOfName nv.name))
      ↔ ent ∈ ents ∧ HdMap.bucket ent.hash = HdMap.bucket (hashOfName nv.name) := by
  rw [h.stores.map m rfl, List.mem_filter, decide_eq_true_eq]

theorem Context.Lists.index (hent : ent ∈ ents) (hlength : dyn.length < 2 ^ 31)
    : lookup dyn (context.nextSeq - 1 - ent.seq + .ofNat 32 STATIC_TABLE_LENGTH).toNat
        = some (ent.nv.name, ent.nv.value) := by
  obtain ⟨i, hi, rfl⟩ := List.mem_iff_getElem.mp hent
  have hindex : (context.nextSeq - 1 - ents[i].seq + .ofNat 32 STATIC_TABLE_LENGTH).toNat
      = i + STATIC_TABLE_LENGTH := by
    have := h.length
    have hi' : i + 61 < 2 ^ 32 := by omega
    rw [h.stores.seq i hi, STATIC_TABLE_LENGTH]
    generalize context.nextSeq = s
    have : s - 1 - (s - 1 - BitVec.ofNat 32 i) + BitVec.ofNat 32 61 = BitVec.ofNat 32 (i + 61) := by
      rw [BitVec.ofNat_add]
      bv_omega
    rw [this, BitVec.toNat_ofNat, Nat.mod_eq_of_lt hi']
  obtain ⟨f, -, hf⟩ := h.nv_of_mem hent
  have hget := h.getElem? i
  rw [List.getElem?_eq_getElem hi, Option.map_some, hf, eq_comm, Option.map_eq_some_iff] at hget
  obtain ⟨f', hf', heq⟩ := hget
  rw [hindex, lookup_dyn, hf', hf, ← heq]
  rfl

end

theorem Context.Lists.hit_of_mem {f : Field} (h : context.Lists (some m) dyn ents)
    (hf : f ∈ dyn) (hname : f.1 = nv.name)
    : ∃ ent ∈ m (HdMap.bucket (hashOfName nv.name)),
        Hit nv (lookupToken nv.name) (hashOfName nv.name) ent ∧ ent.nv.value = f.2 := by
  obtain ⟨ent, hent, hnv⟩ := h.of_mem hf
  have hname : ent.nv.name = nv.name := by
    rw [hnv]
    exact hname
  refine ⟨ent, h.mem_bucket.mpr ⟨hent, ?_⟩, (h.hit_iff hent).mpr hname, ?_⟩
  . rw [h.hash rfl ent hent, hname]
  . rw [hnv]
    rfl

-- A name without a token, or with one that is no index, is not in the static table.
theorem not_static {ent : StaticEntry} (hent : ent ∈ staticTable)
    (h : ¬(0 ≤ lookupToken nv.name ∧ lookupToken nv.name ≤ Token.WWW_AUTHENTICATE))
    : ent.name ≠ nv.name := by
  intro hname
  have htoken := (name_eq_iff_token_eq hent).mp hname
  have hrange := token_mem_staticTable ent hent
  rw [htoken] at hrange
  exact h hrange

section

variable {nameOnly : Bool} {found : Option Entry} (h : context.Lists (some m) dyn ents)
  (hfound : Found nv (lookupToken nv.name) (hashOfName nv.name) nameOnly
    (m (HdMap.bucket (hashOfName nv.name))) found false)

include h hfound

theorem Context.Lists.not_mem (hname : nameOnly = false) : (nv.name, nv.value) ∉ dyn := by
  intro hmem
  obtain ⟨ent, hent, hhit, hvalue⟩ := h.hit_of_mem hmem rfl
  cases hfound with
  | none hnone => exact hnone ent hent hhit
  | name _ _ hother => exact hother hname ent hent hhit hvalue

theorem Context.Lists.searchStaticTable
    (htoken : 0 ≤ lookupToken nv.name ∧ lookupToken nv.name ≤ Token.WWW_AUTHENTICATE)
    : Searched dyn nv nameOnly (searchStaticTable nv (lookupToken nv.name) nameOnly) := by
  have hstatic := @staticFound_searchStaticTable nv nameOnly (by omega) htoken.2
  generalize Hpack.searchStaticTable nv (lookupToken nv.name) nameOnly = res at hstatic ⊢
  cases hstatic with
  | name hent hname hother =>
    refine .name (lookup_of_staticTable hent) hname ?_
    intro hfalse idx hidx
    rcases lookup_cases hidx with ⟨ent, hmem, hname', hvalue'⟩ | hmem
    . exact hother hfalse ent hmem hname' hvalue'
    . exact h.not_mem hfound hfalse hmem
  | exact hent hname hvalue hfalse =>
    refine .exact ?_ hfalse
    rw [lookup_of_staticTable hent, hname, hvalue]

end

/--
A search finds a name if there is a field with it, and a field if it is there.
-/
theorem Context.Lists.searchHdTable (nv : Nv) (mode : IndexingMode)
    (h : context.Lists (some m) dyn ents) (hlength : dyn.length < 2 ^ 31)
    : Searched dyn nv (mode = .neverIndexing)
        (searchHdTable context nv (lookupToken nv.name) mode m (hashOfName nv.name)) := by
  have hfound :=
    @found_findFrom nv (lookupToken nv.name) (hashOfName nv.name) (mode = .neverIndexing)
    (m (HdMap.bucket (hashOfName nv.name)))
  rw [Hpack.searchHdTable, HdMap.find]
  generalize HdMap.findFrom nv (lookupToken nv.name) (hashOfName nv.name)
    (mode = .neverIndexing) none
    (m (HdMap.bucket (hashOfName nv.name))) = r at hfound ⊢
  obtain ⟨found, exactMatch⟩ := r
  dsimp only at hfound ⊢
  have hindex {p : Entry} (hp : p ∈ m (HdMap.bucket (hashOfName nv.name)))
      (hhit : Hit nv (lookupToken nv.name) (hashOfName nv.name) p)
      : lookup dyn (context.nextSeq - 1 - p.seq + .ofNat 32 STATIC_TABLE_LENGTH).toNat
          = some (nv.name, p.nv.value) := by
    have hent := (h.mem_bucket.mp hp).1
    rw [h.index hent hlength, (h.hit_iff hent).mp hhit]
  cases exactMatch with
  | true =>
    cases hfound with
    | exact hmem hhit hvalue hname =>
      rw [if_neg (by simp)]
      refine .exact ?_ hname
      rw [hindex hmem hhit, hvalue]
  | false =>
    by_cases htoken : 0 ≤ lookupToken nv.name ∧ lookupToken nv.name ≤ Token.WWW_AUTHENTICATE
    . rw [if_pos (by simpa using htoken)]
      exact h.searchStaticTable hfound htoken
    . rw [if_neg (by simpa using htoken)]
      have hdyn := h.not_mem hfound
      cases hfound with
      | none hnone =>
        refine .none ?_
        intro idx f hf hname
        rcases lookup_cases hf with ⟨ent, hmem, hname', -⟩ | hmem
        . exact not_static hmem htoken (hname'.trans hname)
        . obtain ⟨ent, hent, hhit, -⟩ := h.hit_of_mem hmem hname
          exact hnone ent hent hhit
      | name hmem hhit _ =>
        refine .name (hindex hmem hhit) rfl ?_
        intro hfalse idx hidx
        rcases lookup_cases hidx with ⟨ent, hent, hname, -⟩ | hmem
        . exact not_static hent htoken hname
        . exact hdyn hfalse hmem

/--
The dynamic table has the fields `dyn`, the newest one first.
-/
def Context.Has (context : Context) (map : Option HdMap) (dyn : List Field) : Prop :=
  ∃ ents, context.Lists map dyn ents

namespace Context

open Fifo (total fit)

theorem Has.tableGet {idx : Nat} {f : Field} (h : context.Has map dyn)
    (hf : lookup dyn idx = some f)
    : context.tableGet idx = .ok f.toHdNv := by
  obtain ⟨ents, hlists⟩ := h
  exact hlists.tableGet hf

theorem Has.getMaxIndex (h : context.Has map dyn)
    : context.getMaxIndex = dyn.length + STATIC_TABLE_LENGTH := by
  obtain ⟨ents, hlists⟩ := h
  exact hlists.getMaxIndex

theorem Has.searchHdTable (nv : Nv) (mode : IndexingMode) (h : context.Has (some m) dyn)
    (hlength : dyn.length < 2 ^ 31)
    : Searched dyn nv (mode = .neverIndexing)
        (searchHdTable context nv (lookupToken nv.name) mode m (hashOfName nv.name)) := by
  obtain ⟨ents, hlists⟩ := h
  exact hlists.searchHdTable nv mode hlength

theorem has_init (map : Option HdMap) (hmap : ∀ m, map = some m → m = HdMap.init) (max : Nat)
    : { Context.init with hdTableBufsizeMax := max }.Has map [] :=
  ⟨[], stores_init map hmap max, rfl, fun _ _ hent => absurd hent List.not_mem_nil⟩

theorem Lists.fit (h : context.Lists map dyn ents) (max : Nat)
    : (fit Entry.room max ents).map (·.nv) = (fit Field.room max dyn).map Field.toHdNv := by
  have hents : Entry.room = HdNv.room ∘ (·.nv) := rfl
  have hdyn : Field.room = HdNv.room ∘ Field.toHdNv := rfl
  rw [hents, hdyn, Fifo.fit_map, Fifo.fit_map, h.nv]

theorem Lists.total (h : context.Lists map dyn ents)
    : total Entry.room ents = total Field.room dyn := by
  have hents : Entry.room = HdNv.room ∘ (·.nv) := rfl
  have hdyn : Field.room = HdNv.room ∘ Field.toHdNv := rfl
  rw [hents, hdyn, ← Fifo.total_map, ← Fifo.total_map, h.nv]

theorem Has.bufsize (h : context.Has map dyn) : context.hdTableBufsize = total Field.room dyn := by
  obtain ⟨ents, hlists⟩ := h
  rw [hlists.stores.bufsize, hlists.total]

theorem Has.length_le (h : context.Has map dyn) : dyn.length * 32 ≤ total Field.room dyn := by
  obtain ⟨ents, hlists⟩ := h
  rw [← hlists.total, ← hlists.length]
  exact length_le_total

theorem Has.shrinkTableSize (h : context.Has map dyn)
    : ∃ context' map', context.shrinkTableSize map = .ok (context', map')
        ∧ context'.Has map' (Fifo.fit Field.room context.hdTableBufsizeMax dyn)
        ∧ context.Shrunk context' ∧ (map'.isSome = map.isSome) := by
  obtain ⟨ents, hlists⟩ := h
  obtain ⟨context', map', hshrink, hstores, hshrunk, hsome⟩ := hlists.stores.shrinkTableSize
  refine ⟨context', map', hshrink, ⟨_, hstores, hlists.fit _, ?_⟩, hshrunk, hsome⟩
  intro hmap ent hent
  rw [hsome] at hmap
  exact hlists.hash hmap ent (Fifo.mem_of_mem_fit hent)

theorem Has.addHdTableIncremental {f : Field} {hash : BitVec 32} (h : context.Has map dyn)
    (hmax : context.hdTableBufsizeMax < 2 ^ 64) (hhash : map.isSome → hash = hashOfName f.1)
    : ∃ context' map', context.addHdTableIncremental f.toHdNv map hash = .ok (context', map')
        ∧ context'.Has map' (Fifo.fit Field.room context.hdTableBufsizeMax (f :: dyn))
        ∧ context'.hdTableBufsizeMax = context.hdTableBufsizeMax ∧ context'.bad = context.bad
        ∧ (map'.isSome = map.isSome) := by
  obtain ⟨ents, hlists⟩ := h
  obtain ⟨context', map', hadd, hstores, hmax', hbad, hsome⟩ :=
    @Stores.addHdTableIncremental _ _ _ f.toHdNv hash hlists.stores hmax
  refine ⟨context', map', hadd, ⟨_, hstores, ?_, ?_⟩, hmax', hbad, hsome⟩
  . rw [push, Fifo.fit]
    change (if f.room ≤ _ then _ :: Fifo.fit Entry.room (_ - f.room) _ else _).map _ = _
    split
    . rw [List.map_cons, List.map_cons, hlists.fit]
    . rfl
  . intro hmap ent hent
    rw [hsome] at hmap
    rw [push_eq_fit] at hent
    rcases List.mem_cons.mp (Fifo.mem_of_mem_fit hent) with rfl | hent
    . exact hhash hmap
    . exact hlists.hash hmap ent hent

end Context
end Hpack
end Fsw
