import Mathlib.Data.List.Basic

namespace Fsw

abbrev SortedMap (κ ν : Type) := List (κ × ν)

namespace SortedMap

variable {κ ν : Type} [DecidableEq κ] [LT κ] [DecidableLT κ]

def find? (m : SortedMap κ ν) (k : κ) : Option ν :=
  match m with
  | [] => none
  | (k', v) :: m => if k = k' then some v else find? m k

def contains (m : SortedMap κ ν) (k : κ) : Bool :=
  (m.find? k).isSome

def insert (m : SortedMap κ ν) (k : κ) (v : ν) : SortedMap κ ν :=
  match m with
  | [] => [(k, v)]
  | (k', v') :: m =>
    if k = k' then (k, v) :: m
    else if k < k' then (k, v) :: (k', v') :: m
    else (k', v') :: insert m k v

theorem find?_insert {m : SortedMap κ ν} {k k' : κ} {v : ν}
    : (m.insert k v).find? k' = if k' = k then some v else m.find? k' := by
  induction m with
  | nil => rfl
  | cons e m ih =>
    rcases e with ⟨k₀, v₀⟩
    unfold insert
    split
    . next heq =>
      subst heq
      by_cases h : k' = k
      . simp [find?, h]
      . simp [find?, h]
    . next hne =>
      split
      . rfl
      . by_cases h : k' = k₀
        . have : k' ≠ k := by
            intro heq
            apply hne
            rw [← heq, h]
          simp [find?, h, h ▸ this]
        . simp [find?, h, ih]

theorem find?_foldl_insert {l : List (κ × ν)} {m : SortedMap κ ν} {k : κ}
    : (l.foldl (fun m e => m.insert e.1 e.2) m).find? k
        = ((l.reverse.find? fun e => e.1 = k).map Prod.snd).or (m.find? k) := by
  induction l generalizing m with
  | nil => rfl
  | cons e l ih =>
    rw [List.foldl_cons, ih, find?_insert, List.reverse_cons, List.find?_append]
    cases hfind : l.reverse.find? fun e => e.1 = k with
    | some e' => simp
    | none =>
      by_cases heq : e.1 = k
      . simp [heq]
      . simp [heq, Ne.symm heq]

def Sorted (m : SortedMap κ ν) : Prop :=
  m.Pairwise fun e e' => e.1 < e'.1

section Sorted

variable {m : SortedMap κ ν} {k : κ} {v : ν}

theorem mem_insert {e : κ × ν} (h : e ∈ m.insert k v) : e = (k, v) ∨ e ∈ m := by
  induction m with
  | nil => exact .inl (List.mem_singleton.mp h)
  | cons e' m ih =>
    unfold insert at h
    split at h
    . rcases List.mem_cons.mp h with h | h
      . exact .inl h
      . exact .inr (List.mem_cons_of_mem e' h)
    . split at h
      . exact List.mem_cons.mp h
      . rcases List.mem_cons.mp h with h | h
        . rw [h]
          exact .inr List.mem_cons_self
        . rcases ih h with h | h
          . exact .inl h
          . exact .inr (List.mem_cons_of_mem e' h)

variable [Trans (· < · : κ → κ → Prop) (· < ·) (· < ·)] [Std.Trichotomous (· < · : κ → κ → Prop)]

theorem Sorted.insert (h : m.Sorted) : (m.insert k v).Sorted := by
  induction m with
  | nil => exact List.pairwise_singleton _ _
  | cons e m ih =>
    rcases e with ⟨k', v'⟩
    have hcons := List.pairwise_cons.mp h
    unfold SortedMap.insert
    split
    . next heq =>
      rw [← heq] at hcons
      exact List.pairwise_cons.mpr hcons
    . next hne =>
      split
      . next hlt =>
        apply List.pairwise_cons.mpr
        refine ⟨?_, h⟩
        intro e he
        rcases List.mem_cons.mp he with he | he
        . rw [he]
          exact hlt
        . exact Trans.trans hlt (hcons.1 e he)
      . next hnlt =>
        have hlt : k' < k := by
          by_contra hngt
          exact hne (Std.Trichotomous.trichotomous k k' hnlt hngt)
        apply List.pairwise_cons.mpr
        refine ⟨?_, ih hcons.2⟩
        intro e he
        rcases mem_insert he with he | he
        . rw [he]
          exact hlt
        . exact hcons.1 e he

theorem sorted_foldl_insert {l : List (κ × ν)} (h : m.Sorted)
    : (l.foldl (fun m e => m.insert e.1 e.2) m).Sorted := by
  induction l generalizing m with
  | nil => exact h
  | cons e l ih => exact ih h.insert

end Sorted

section Find

variable [Std.Irrefl (· < · : κ → κ → Prop)] {m : SortedMap κ ν} {k : κ} {v : ν}

omit [DecidableLT κ] in
theorem mem_iff_find? (h : m.Sorted) : (k, v) ∈ m ↔ m.find? k = some v := by
  induction m with
  | nil => simp [find?]
  | cons e m ih =>
    rcases e with ⟨k', v'⟩
    have hcons := List.pairwise_cons.mp h
    unfold find?
    split
    . next heq =>
      subst heq
      have hnot : (k, v) ∉ m := fun hmem => Std.Irrefl.irrefl k (hcons.1 _ hmem)
      simp [hnot, eq_comm]
    . next hne => simp [hne, ih hcons.2]

end Find

omit [DecidableEq κ] [DecidableLT κ] in
theorem Sorted.least_of_find? {m : SortedMap κ ν} {p : κ × ν → Bool} {e e' : κ × ν} (h : m.Sorted)
    (hfind : List.find? p m = some e) (he' : e' ∈ m) (hp : p e' = true) : e' = e ∨ e.1 < e'.1 := by
  rcases List.find?_eq_some_iff_append.mp hfind with ⟨_, front, rest, hm, hfront⟩
  rw [hm] at he' h
  rcases List.mem_append.mp he' with he' | he'
  . have hnot := hfront e' he'
    rw [hp] at hnot
    contradiction
  . rcases List.mem_cons.mp he' with he' | he'
    . exact .inl he'
    . have hrest := (List.pairwise_append.mp h).2.1
      exact .inr ((List.pairwise_cons.mp hrest).1 e' he')

end SortedMap
end Fsw
