import Mathlib.Data.List.Nodup
import Fsw.Hpack.Impl.Table

namespace Fsw
namespace Hpack

def TokenRow.name (row : TokenRow) : Bytes :=
  row.text ++ [row.last]

theorem namelen_tokenRows : ∀ row ∈ tokenRows, row.namelen = row.text.length + 1 := by
  decide +kernel

theorem nodup_tokenRows : (tokenRows.map (·.token)).Nodup := by
  decide +kernel

theorem static_tokenRows
    : ∀ row ∈ tokenRows, row.token ≤ Token.WWW_AUTHENTICATE →
        (staticTable[row.token.toNat]?).map (fun ent => (ent.name, ent.token)) = some
        (row.name, row.token) := by
  decide +kernel

theorem length_staticTable : staticTable.length = STATIC_TABLE_LENGTH := by
  decide +kernel

theorem matches_iff {row : TokenRow} {name : Bytes} (h : row.namelen = row.text.length + 1)
    : row.matches name ↔ name = row.name := by
  rw [TokenRow.matches, TokenRow.name, h, Nat.add_sub_cancel]
  constructor
  . intro hmatches
    simp only [Bool.and_eq_true, decide_eq_true_eq] at hmatches
    obtain ⟨⟨hlength, hlast⟩, htake⟩ := hmatches
    have hdrop : name.drop row.text.length = [row.last] := by
      have := List.getLast?_eq_getElem? (l := name)
      rw [hlast, hlength, Nat.add_sub_cancel] at this
      rw [List.drop_eq_getElem_cons (by omega), List.drop_eq_nil_of_le (by omega)]
      congr
      exact (List.getElem?_eq_some_iff.mp this.symm).2
    rw [← List.take_append_drop row.text.length name, htake, hdrop]
  . rintro rfl
    simp

theorem lookupToken_cases (name : Bytes)
    : (lookupToken name = -1 ∧ ∀ row ∈ tokenRows, name ≠ row.name)
      ∨ ∃ row ∈ tokenRows, lookupToken name = row.token ∧ name = row.name := by
  rw [lookupToken]
  cases hfind : tokenRows.find? (·.matches name) with
  | none =>
    refine .inl ⟨rfl, ?_⟩
    intro row hrow heq
    have := List.find?_eq_none.mp hfind row hrow
    exact this ((matches_iff (namelen_tokenRows row hrow)).mpr heq)
  | some row =>
    have hrow := List.mem_of_find?_eq_some hfind
    have hmatches := List.find?_some hfind
    exact .inr ⟨row, hrow, rfl, (matches_iff (namelen_tokenRows row hrow)).mp hmatches⟩

theorem lookupToken_inj {a b : Bytes} (h : lookupToken a = lookupToken b) (hne : lookupToken a ≠ -1)
    : a = b := by
  rcases lookupToken_cases a with ⟨hnone, -⟩ | ⟨row, hrow, htoken, ha⟩
  . exact absurd hnone hne
  . rcases lookupToken_cases b with ⟨hnone, -⟩ | ⟨row', hrow', htoken', hb⟩
    . rw [h] at hne
      exact absurd hnone hne
    . have hrows : row = row' :=
        List.inj_on_of_nodup_map nodup_tokenRows hrow hrow' (by rw [← htoken, ← htoken', h])
      rw [ha, hb, hrows]

theorem staticTable_lookupToken {name : Bytes} (h : lookupToken name ≠ -1)
    (hle : lookupToken name ≤ Token.WWW_AUTHENTICATE)
    : ∃ ent, staticTable[(lookupToken name).toNat]? = some ent ∧ ent.name = name
        ∧ ent.token = lookupToken name := by
  rcases lookupToken_cases name with ⟨hnone, -⟩ | ⟨row, hrow, htoken, hname⟩
  . exact absurd hnone h
  . rw [htoken] at hle ⊢
    have hrow' := static_tokenRows row hrow hle
    rw [Option.map_eq_some_iff] at hrow'
    obtain ⟨ent, hent, hpair⟩ := hrow'
    rw [Prod.mk.injEq] at hpair
    exact ⟨ent, hent, hpair.1.trans hname.symm, hpair.2⟩

theorem token_staticTable : ∀ ent ∈ staticTable, lookupToken ent.name = ent.token := by
  decide +kernel

theorem token_mem_staticTable
    : ∀ ent ∈ staticTable, 0 ≤ ent.token ∧ ent.token ≤ Token.WWW_AUTHENTICATE := by
  decide +kernel

theorem contiguous_staticTable
    : ∀ j < STATIC_TABLE_LENGTH, ∀ i ≤ j, ∀ ent ∈ staticTable[j]?, ent.token.toNat ≤ i →
        (staticTable[i]?).map (·.token) = some ent.token := by
  decide +kernel

theorem name_eq_iff_token_eq {ent : StaticEntry} {name : Bytes} (h : ent ∈ staticTable)
    : ent.name = name ↔ ent.token = lookupToken name := by
  rw [← token_staticTable ent h]
  constructor
  . rintro rfl
    rfl
  . intro htoken
    refine lookupToken_inj htoken ?_
    have := token_mem_staticTable ent h
    rw [token_staticTable ent h]
    omega

theorem le_of_name_eq {j : Nat} {ent : StaticEntry} {name : Bytes} (h : staticTable[j]? = some ent)
    (hname : ent.name = name)
    : (lookupToken name).toNat ≤ j := by
  by_contra hlt
  have hmem := List.mem_of_getElem? h
  have htoken := (name_eq_iff_token_eq hmem).mp hname
  have hrange := token_mem_staticTable ent hmem
  have hj := (List.getElem?_eq_some_iff.mp h).1
  have hall : ∀ j < STATIC_TABLE_LENGTH, ∀ ent ∈ staticTable[j]?, ent.token.toNat ≤ j := by
    decide +kernel
  rw [length_staticTable] at hj
  have := hall j hj ent h
  rw [htoken] at this
  omega

variable {nv : Nv} {nameOnly : Bool}

inductive StaticFound (nv : Nv) (nameOnly : Bool) : SearchResult → Prop where
  | name {j : Nat} {ent : StaticEntry} (hent : staticTable[j]? = some ent)
      (hname : ent.name = nv.name)
      (h : nameOnly = false → ∀ ent ∈ staticTable, ent.name = nv.name → ent.value ≠ nv.value)
      : StaticFound nv nameOnly ⟨some j, false⟩
  | exact {j : Nat} {ent : StaticEntry} (hent : staticTable[j]? = some ent)
      (hname : ent.name = nv.name) (hvalue : ent.value = nv.value) (h : nameOnly = false)
      : StaticFound nv nameOnly ⟨some j, true⟩

theorem staticFound_first {i k : Nat} {first : StaticEntry} (hfirst : staticTable[k]? = some first)
    (hname : first.name = nv.name)
    (hbefore : ∀ j < i, ∀ ent ∈ staticTable[j]?, ent.name = nv.name → ent.value ≠ nv.value)
    (hafter : ∀ j ≥ i, ∀ ent ∈ staticTable[j]?, ent.name ≠ nv.name)
    : StaticFound nv false ⟨some k, false⟩ := by
  refine .name hfirst hname ?_
  intro _ ent hent hname'
  obtain ⟨j, hj⟩ := List.mem_iff_getElem?.mp hent
  by_cases hlt : j < i
  . exact hbefore j hlt ent hj hname'
  . exact absurd hname' (hafter j (by omega) ent hj)

theorem staticFound_searchStaticFrom {i : Nat} {ents : List StaticEntry} {first : StaticEntry}
    (hfirst : staticTable[(lookupToken nv.name).toNat]? = some first) (hname : first.name = nv.name)
    (hents : ents = staticTable.drop i) (hi : (lookupToken nv.name).toNat ≤ i)
    (hbefore : ∀ j < i, ∀ ent ∈ staticTable[j]?, ent.name = nv.name → ent.value ≠ nv.value)
    : StaticFound nv false (searchStaticFrom nv (lookupToken nv.name) i ents) := by
  induction ents generalizing i with
  | nil =>
    refine staticFound_first hfirst hname hbefore ?_
    intro j hj ent hent
    have hlength := List.drop_eq_nil_iff.mp hents.symm
    rw [List.getElem?_eq_none (by omega)] at hent
    cases hent
  | cons ent ents ih =>
    have hget : staticTable[i]? = some ent := by
      rw [← List.head?_drop, ← hents, List.head?_cons]
    have hmem := List.mem_of_getElem? hget
    rw [searchStaticFrom]
    split
    . next htoken =>
      split
      . next hvalue =>
        simp only [Bool.and_eq_true, decide_eq_true_eq] at hvalue
        exact .exact hget ((name_eq_iff_token_eq hmem).mpr htoken) hvalue.2 rfl
      . next hvalue =>
        refine ih ?_ (by omega) ?_
        . rw [← List.tail_drop, ← hents, List.tail_cons]
        . intro j hj ent' hent' hname'
          rcases Nat.lt_succ_iff_lt_or_eq.mp hj with hlt | rfl
          . exact hbefore j hlt ent' hent' hname'
          . rw [hget] at hent'
            injection hent' with hent'
            subst hent'
            intro hvalue'
            rw [hvalue'] at hvalue
            simp at hvalue
    . next htoken =>
      refine staticFound_first hfirst hname hbefore ?_
      intro j hj ent' hent' hname'
      have hmem' := List.mem_of_getElem? hent'
      have htoken' := (name_eq_iff_token_eq hmem').mp hname'
      have hlt := (List.getElem?_eq_some_iff.mp hent').1
      rw [length_staticTable] at hlt
      have := contiguous_staticTable j hlt i hj ent' hent' (by rw [htoken']; exact hi)
      rw [hget, Option.map_some, Option.some.injEq, htoken'] at this
      exact htoken this

theorem staticFound_searchStaticTable (nameOnly : Bool) (h : lookupToken nv.name ≠ -1)
    (hle : lookupToken nv.name ≤ Token.WWW_AUTHENTICATE)
    : StaticFound nv nameOnly (searchStaticTable nv (lookupToken nv.name) nameOnly) := by
  obtain ⟨first, hfirst, hname, -⟩ := staticTable_lookupToken h hle
  rw [searchStaticTable]
  cases nameOnly with
  | true => exact .name hfirst hname fun h => by cases h
  | false =>
    refine staticFound_searchStaticFrom hfirst hname rfl (Nat.le_refl _) ?_
    intro j hj ent hent hname'
    have := le_of_name_eq hent hname'
    omega

end Hpack
end Fsw
