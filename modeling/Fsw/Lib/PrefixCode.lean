import Mathlib.Data.List.Basic

namespace Fsw

/--
Words for symbols and one for the end, none of which is the beginning of another one.
-/
structure PrefixCode (σ : Type) where
  word : σ → List Bool
  stop : List Bool
  word_inj : ∀ c c', word c <+: word c' → c = c'
  not_word_stop : ∀ c, ¬word c <+: stop
  not_stop_word : ∀ c, ¬stop <+: word c

namespace PrefixCode

variable {σ : Type} (C : PrefixCode σ)

def encode (cs : List σ) : List Bool :=
  cs.flatMap C.word

theorem encode_nil : C.encode [] = [] := rfl

theorem encode_cons (c : σ) (cs : List σ) : C.encode (c :: cs) = C.word c ++ C.encode cs := by
  rw [encode, List.flatMap_cons, encode]

theorem encode_append (cs cs' : List σ) : C.encode (cs ++ cs') = C.encode cs ++ C.encode cs' := by
  rw [encode, List.flatMap_append, encode, encode]

structure Open (path : List Bool) : Prop where
  not_word : ∀ c, ¬C.word c <+: path
  not_stop : ¬C.stop <+: path

variable {C} {path path' rest rest' : List Bool} {c c' : σ} {cs cs' : List σ}

theorem word_unique (h : C.word c ++ rest = C.word c' ++ rest') : c = c' ∧ rest = rest' := by
  have hc : c = c' := by
    rcases List.append_eq_append_iff.mp h with ⟨l, hl, _⟩ | ⟨l, hl, _⟩
    . exact C.word_inj c c' ⟨l, hl.symm⟩
    . exact (C.word_inj c' c ⟨l, hl.symm⟩).symm
  rw [hc] at h
  exact ⟨hc, List.append_cancel_left h⟩

theorem prefix_of_append (h : path ++ rest = path' ++ rest') : path <+: path' ∨ path' <+: path := by
  rcases List.append_eq_append_iff.mp h with ⟨l, hl, _⟩ | ⟨l, hl, _⟩
  . exact .inl ⟨l, hl.symm⟩
  . exact .inr ⟨l, hl.symm⟩

theorem encode_unique (hpath : C.Open path) (hpath' : C.Open path')
    (h : C.encode cs ++ path = C.encode cs' ++ path')
    : cs = cs' ∧ path = path' := by
  induction cs generalizing cs' with
  | nil =>
    cases cs' with
    | nil => exact ⟨rfl, h⟩
    | cons c' cs' =>
      rw [encode_cons, List.append_assoc] at h
      exact absurd ⟨_, h.symm⟩ (hpath.not_word c')
  | cons c cs ih =>
    cases cs' with
    | nil =>
      rw [encode_cons, List.append_assoc] at h
      exact absurd ⟨_, h⟩ (hpath'.not_word c)
    | cons c' cs' =>
      rw [encode_cons, encode_cons, List.append_assoc, List.append_assoc] at h
      obtain ⟨rfl, hrest⟩ := word_unique h
      obtain ⟨rfl, hp⟩ := ih hrest
      exact ⟨rfl, hp⟩

theorem encode_ne_stop (hpath : C.Open path)
    : C.encode cs ++ path ≠ C.encode cs' ++ C.stop ++ rest := by
  induction cs generalizing cs' with
  | nil =>
    intro h
    cases cs' with
    | nil => exact hpath.not_stop ⟨rest, h.symm⟩
    | cons c' cs' =>
      rw [encode_cons, List.append_assoc, List.append_assoc] at h
      exact hpath.not_word c' ⟨_, h.symm⟩
  | cons c cs ih =>
    intro h
    rw [encode_cons, List.append_assoc] at h
    cases cs' with
    | nil =>
      rw [encode_nil, List.nil_append] at h
      rcases prefix_of_append h with hp | hp
      . exact C.not_word_stop c hp
      . exact C.not_stop_word c hp
    | cons c' cs' =>
      rw [encode_cons, List.append_assoc, List.append_assoc] at h
      obtain ⟨rfl, hrest⟩ := word_unique h
      rw [← List.append_assoc] at hrest
      exact ih hrest

/--
An automaton that reads a block of bits at a time, and then fails, or goes to a next state and
possibly emits a symbol.
-/
structure Decoder (C : PrefixCode σ) (S β : Type) where
  start : S
  step : S → β → Option (Option σ × S)
  bits : β → List Bool
  path : S → List Bool
  path_start : path start = []
  path_open : ∀ s, C.Open (path s)
  path_step : ∀ s x e s', step s x = some (e, s') → path s ++ bits x = C.encode e.toList ++ path s'
  stop_of_fail : ∀ s x, step s x = none → C.stop <+: path s ++ bits x

namespace Decoder

variable {S β : Type} (D : Decoder C S β)

def run (s : S) : List β → Option (List σ × S)
  | [] => some ([], s)
  | x :: xs =>
    match D.step s x with
    | none => none
    | some (e, s') => (run s' xs).map fun (cs, s'') => (e.toList ++ cs, s'')

variable {D} {s s' : S} {xs : List β}

theorem run_append (xs ys : List β)
    : D.run s (xs ++ ys) = (D.run s xs).bind fun (cs, s') => (D.run s' ys).map fun (cs', s'') =>
        (cs ++ cs', s'') := by
  induction xs generalizing s with
  | nil =>
    rw [List.nil_append, run, Option.bind_some]
    exact Option.map_id'.symm
  | cons x xs ih =>
    rw [List.cons_append, run, run]
    cases D.step s x with
    | none => rfl
    | some r =>
      dsimp only
      rw [ih]
      cases D.run r.2 xs with
      | none => rfl
      | some r' =>
        rw [Option.bind_some, Option.map_some, Option.bind_some, Option.map_map]
        congr 1
        funext r''
        rw [Function.comp, List.append_assoc]

theorem length_run_le (h : D.run s xs = some (cs, s')) : cs.length ≤ xs.length := by
  induction xs generalizing s cs with
  | nil =>
    rw [run, Option.some.injEq, Prod.mk.injEq] at h
    rw [← h.1]
    exact Nat.le_refl 0
  | cons x xs ih =>
    rw [run] at h
    split at h
    . cases h
    . next e s₁ hstep =>
      rw [Option.map_eq_some_iff] at h
      obtain ⟨⟨cs₁, s₂⟩, hrun, heq⟩ := h
      rw [Prod.mk.injEq] at heq
      rw [heq.2] at hrun
      have hle := ih hrun
      have he : e.toList.length ≤ 1 := by
        cases e with
        | none => exact Nat.zero_le 1
        | some c => exact Nat.le_refl 1
      rw [← heq.1, List.length_append, List.length_cons]
      omega

theorem run_sound (h : D.run s xs = some (cs, s'))
    : D.path s ++ xs.flatMap D.bits = C.encode cs ++ D.path s' := by
  induction xs generalizing s cs with
  | nil =>
    rw [run, Option.some.injEq, Prod.mk.injEq] at h
    rw [← h.1, ← h.2, List.flatMap_nil, List.append_nil]
    rfl
  | cons x xs ih =>
    rw [run] at h
    split at h
    . cases h
    . next e s₁ hstep =>
      rw [Option.map_eq_some_iff] at h
      obtain ⟨⟨cs₁, s₂⟩, hrun, heq⟩ := h
      rw [Prod.mk.injEq] at heq
      rw [heq.2] at hrun
      rw [List.flatMap_cons, ← List.append_assoc, D.path_step _ _ _ _ hstep, List.append_assoc,
        ih hrun, ← heq.1, encode_append, List.append_assoc]

/--
The symbols of a word are decoded if an unfinished word follows them, and it is the path to the
state that is reached.
-/
theorem run_complete (hpath : C.Open path) (h : D.path s ++ xs.flatMap D.bits = C.encode cs ++ path)
    : ∃ s', D.run s xs = some (cs, s') ∧ D.path s' = path := by
  induction xs generalizing s cs with
  | nil =>
    rw [List.flatMap_nil, List.append_nil, ← List.nil_append (D.path s), ← C.encode_nil] at h
    obtain ⟨rfl, hp⟩ := encode_unique (D.path_open s) hpath h
    exact ⟨s, rfl, hp⟩
  | cons x xs ih =>
    rw [List.flatMap_cons, ← List.append_assoc] at h
    rw [run]
    cases hstep : D.step s x with
    | none =>
      obtain ⟨rest, hrest⟩ := D.stop_of_fail s x hstep
      rw [← hrest, ← List.nil_append C.stop, ← C.encode_nil, List.append_assoc] at h
      exact absurd h.symm (encode_ne_stop hpath)
    | some r =>
      obtain ⟨e, s₁⟩ := r
      rw [D.path_step s x e s₁ hstep, List.append_assoc] at h
      cases e with
      | none =>
        obtain ⟨s', hrun, hp⟩ := ih h
        refine ⟨s', ?_, hp⟩
        dsimp only
        rw [hrun]
        rfl
      | some c =>
        rw [Option.toList_some, encode_cons, encode_nil, List.append_nil] at h
        cases cs with
        | nil => exact absurd ⟨_, h⟩ (hpath.not_word c)
        | cons c' cs =>
          rw [encode_cons, List.append_assoc] at h
          obtain ⟨rfl, hrest⟩ := word_unique h
          obtain ⟨s', hrun, hp⟩ := ih hrest
          refine ⟨s', ?_, hp⟩
          dsimp only
          rw [hrun]
          rfl

end Decoder
end PrefixCode
end Fsw
