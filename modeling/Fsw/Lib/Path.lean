import Mathlib.Data.List.DropRight
import Fsw.Lib.Bytes

namespace Fsw
namespace Path

def dot : Bytes := [46]

def dotdot : Bytes := [46, 46]

def segments (path : Bytes) : List Bytes :=
  path.splitOn 47

def step (names : List Bytes) (segment : Bytes) : List Bytes :=
  if segment = [] ∨ segment = dot then names
  else if segment = dotdot then names.dropLast
  else names ++ [segment]

def walk (names : List Bytes) (segments : List Bytes) : List Bytes :=
  segments.foldl step names

def start (cwd : List Bytes) (path : Bytes) : List Bytes :=
  if path.head? = some 47 then [] else cwd

-- The names from the root on that a file name leads along, seen from the directory `cwd`
def resolve (cwd : List Bytes) (path : Bytes) : List Bytes :=
  walk (start cwd path) (segments path)

/--
How many levels the segments lead up, and along which names they lead down from there.
-/
def climb (segments : List Bytes) : Nat × List Bytes :=
  segments.foldl climbStep (0, [])
where
  climbStep (c : Nat × List Bytes) (segment : Bytes) : Nat × List Bytes :=
    if segment = [] ∨ segment = dot then c
    else if segment = dotdot then if c.2 = [] then (c.1 + 1, []) else (c.1, c.2.dropLast)
    else (c.1, c.2 ++ [segment])

def Proper (name : Bytes) : Prop :=
  name ≠ [] ∧ name ≠ dot ∧ name ≠ dotdot

instance {name : Bytes} : Decidable (Proper name) :=
  inferInstanceAs (Decidable (_ ∧ _))

structure Dir where
  names : List Bytes
  proper : ∀ name ∈ names, Proper name

-- What follows the last `/`, and what precedes it
def base (path : Bytes) : Bytes :=
  path.rtakeWhile (· ≠ 47)

def dir (path : Bytes) : Bytes :=
  path.rdropWhile (· ≠ 47)

def Under (cwd : List Bytes) (root path : Bytes) : Prop :=
  resolve cwd root <+: resolve cwd path

instance {cwd : List Bytes} {root path : Bytes} : Decidable (Under cwd root path) :=
  inferInstanceAs (Decidable (_ <+: _))

/--
The way from the file name `root` to the file name `root ++ rest`. A rest that does not begin with
`/` lengthens the last name of `root`, so the way leads back over this name first. An empty `root`
says nothing about where `rest` starts.
-/
def route (cwd : List Bytes) (root rest : Bytes) : List Bytes :=
  if root = [] ∧ rest.head? = some 47 then List.replicate cwd.length dotdot ++ segments rest
  else if base root = [] ∨ rest = [] ∨ rest.head? = some 47 then segments rest
  else back (resolve cwd (dir root)) (base root) ++ segments (base root ++ rest)
where
  back (names : List Bytes) (segment : Bytes) : List Bytes :=
    if segment = dot then [] else if segment = dotdot then names.getLast?.toList else [dotdot]

-- The way leads up no further than it comes down again through the same names
def Returns (cwd : List Bytes) (root rest : Bytes) : Prop :=
  (resolve cwd root).drop ((resolve cwd root).length - (climb (route cwd root rest)).1)
    <+: (climb (route cwd root rest)).2

instance {cwd : List Bytes} {root rest : Bytes} : Decidable (Returns cwd root rest) :=
  inferInstanceAs (Decidable (_ <+: _))

section Walk

variable {names segs segs' : List Bytes} {segment : Bytes} {c : Nat × List Bytes}

theorem walk_append : walk names (segs ++ segs') = walk (walk names segs) segs' := by
  apply List.foldl_append

theorem walk_nil_cons : walk names ([] :: segs) = walk names segs := by
  rfl

theorem step_proper (h : Proper segment) : step names segment = names ++ [segment] := by
  unfold step
  rw [if_neg, if_neg h.2.2]
  rintro (hnil | hdot)
  . exact h.1 hnil
  . exact h.2.1 hdot

theorem proper_step (h : ∀ name ∈ names, Proper name)
    : ∀ name ∈ step names segment, Proper name := by
  unfold step
  split
  . exact h
  . next hskip =>
    split
    . intro name hmem
      apply h name (List.dropLast_subset names hmem)
    . next hdotdot =>
      intro name hmem
      rcases List.mem_append.mp hmem with hmem | hmem
      . apply h name hmem
      . rw [List.mem_singleton] at hmem
        rw [not_or] at hskip
        rw [hmem]
        exact ⟨hskip.1, hskip.2, hdotdot⟩

theorem proper_walk (h : ∀ name ∈ names, Proper name) : ∀ name ∈ walk names segs, Proper name := by
  unfold walk
  induction segs generalizing names with
  | nil => exact h
  | cons segment segs ih => apply ih (proper_step h)

theorem step_take_append
    : step (names.take (names.length - c.1) ++ c.2) segment
        = names.take (names.length - (climb.climbStep c segment).1)
          ++ (climb.climbStep c segment).2 := by
  unfold step climb.climbStep
  split
  . rfl
  . split
    . split
      . next hnil =>
        rw [hnil, List.append_nil, List.append_nil, List.dropLast_eq_take,
          List.length_take, List.take_take]
        congr 1
        omega
      . next hne => rw [List.dropLast_append_of_ne_nil hne]
    . rw [List.append_assoc]

theorem walk_eq_climb
    : walk names segs = names.take (names.length - (climb segs).1) ++ (climb segs).2 := by
  have hfold (c : Nat × List Bytes) : walk (names.take (names.length - c.1) ++ c.2) segs
      = names.take (names.length - (segs.foldl climb.climbStep c).1)
        ++ (segs.foldl climb.climbStep c).2 := by
    induction segs generalizing c with
    | nil => rfl
    | cons segment segs ih =>
      rw [List.foldl_cons, ← ih, ← step_take_append]
      rfl
  have hzero := hfold (0, [])
  rw [Nat.sub_zero, List.take_length, List.append_nil] at hzero
  exact hzero

theorem isPrefix_walk_iff
    : names <+: walk names segs
        ↔ names.drop (names.length - (climb segs).1) <+: (climb segs).2 := by
  rw [walk_eq_climb]
  generalize names.length - (climb segs).1 = k
  nth_rewrite 1 [← List.take_append_drop k names]
  apply List.prefix_append_right_inj

theorem walk_replicate_dotdot {n : Nat} (h : names.length ≤ n)
    : walk names (List.replicate n dotdot) = [] := by
  induction n generalizing names with
  | zero =>
    apply List.eq_nil_of_length_eq_zero
    exact Nat.le_zero.mp h
  | succ n ih =>
    rw [List.replicate_succ]
    apply ih
    have hdrop : step names dotdot = names.dropLast := rfl
    rw [hdrop, List.length_dropLast]
    omega

theorem walk_step_back (h : ∀ name ∈ names, Proper name) (hne : segment ≠ [])
    : walk (step names segment) (route.back names segment) = names := by
  unfold route.back
  split
  . next hdot =>
    rw [hdot]
    rfl
  . next hdot =>
    split
    . next hdotdot =>
      have hstep : step names segment = names.dropLast := by
        rw [hdotdot]
        rfl
      rw [hstep]
      rcases List.eq_nil_or_concat names with hnil | ⟨front, last, hlast⟩
      . rw [hnil]
        rfl
      . rw [List.concat_eq_append] at hlast
        have hproper : Proper last := by
          apply h
          rw [hlast]
          exact List.mem_append_right front (List.mem_singleton_self last)
        rw [hlast, List.getLast?_concat, List.dropLast_concat]
        exact step_proper hproper
    . next hdotdot =>
      rw [step_proper ⟨hne, hdot, hdotdot⟩]
      exact List.dropLast_concat

end Walk

section Resolve

variable {cwd : List Bytes} {path root rest : Bytes}

theorem segments_append_slash
    : segments (path ++ [47] ++ rest) = segments path ++ segments rest := by
  rw [List.append_assoc]
  exact List.splitOn_append_cons_self path rest

theorem start_append (h : path ≠ []) : start cwd (path ++ rest) = start cwd path := by
  unfold start
  rw [List.head?_append_of_ne_nil path h]

theorem segments_slash : segments (path ++ [47]) = segments path ++ [[]] := by
  have happend := @segments_append_slash path []
  rw [List.append_nil] at happend
  exact happend

theorem resolve_append_slash
    : resolve cwd (path ++ [47] ++ rest) = walk (resolve cwd (path ++ [47])) (segments rest) := by
  have hne : path ++ [47] ≠ [] := List.append_ne_nil_of_right_ne_nil path (List.cons_ne_nil 47 [])
  unfold resolve
  rw [start_append hne, segments_append_slash, segments_slash, walk_append, walk_append]
  rfl

theorem resolve_slash (h : path ≠ []) : resolve cwd (path ++ [47]) = resolve cwd path := by
  unfold resolve
  rw [start_append h, segments_slash, walk_append]
  rfl

theorem resolve_of_head (h : path.head? ≠ some 47)
    : resolve cwd path = walk cwd (segments path) := by
  unfold resolve start
  rw [if_neg h]

theorem dir_cases : dir path = [] ∨ ∃ front, dir path = front ++ [47] := by
  unfold dir
  induction path using List.reverseRecOn with
  | nil => apply Or.inl rfl
  | append_singleton front last ih =>
    rw [List.rdropWhile_concat]
    split
    . exact ih
    . next hlast =>
      rw [decide_eq_true_eq, not_not] at hlast
      rw [hlast]
      exact Or.inr ⟨front, rfl⟩

theorem dir_append_base : dir path ++ base path = path := by
  apply List.rdropWhile_append_rtakeWhile

theorem not_mem_base : 47 ∉ base path := by
  intro hmem
  have hne := List.mem_rtakeWhile_imp hmem
  rw [decide_eq_true_eq] at hne
  exact hne rfl

theorem segments_base : segments (base path) = [base path] := by
  apply List.splitOn_eq_singleton not_mem_base

theorem resolve_dir_append (h : rest.head? ≠ some 47)
    : resolve cwd (dir path ++ rest) = walk (resolve cwd (dir path)) (segments rest) := by
  rcases dir_cases with hnil | ⟨front, hfront⟩
  . rw [hnil]
    exact resolve_of_head h
  . rw [hfront]
    exact resolve_append_slash

theorem head_base : (base path).head? ≠ some 47 := by
  intro hhead
  exact not_mem_base (List.mem_of_mem_head? hhead)

theorem resolve_eq_step : resolve cwd path = step (resolve cwd (dir path)) (base path) := by
  have happend := @resolve_dir_append cwd path (base path) head_base
  rw [dir_append_base, segments_base] at happend
  exact happend

theorem proper_resolve (h : ∀ name ∈ cwd, Proper name)
    : ∀ name ∈ resolve cwd path, Proper name := by
  unfold resolve start
  apply proper_walk
  split
  . intro name hmem
    cases hmem
  . exact h

theorem resolve_append_segments (hroot : root ≠ [])
    (h : base root = [] ∨ rest = [] ∨ rest.head? = some 47)
    : resolve cwd (root ++ rest) = walk (resolve cwd root) (segments rest) := by
  rcases h with hbase | hrest | hhead
  . have hdir : dir root = root := by
      have happend := @dir_append_base root
      rw [hbase, List.append_nil] at happend
      exact happend
    rcases @dir_cases root with hnil | ⟨front, hfront⟩
    . rw [hdir] at hnil
      contradiction
    . rw [← hdir, hfront]
      exact resolve_append_slash
  . rw [hrest, List.append_nil]
    rfl
  . rcases List.head?_eq_some_iff.mp hhead with ⟨tail, htail⟩
    have hslash := @resolve_append_slash cwd root tail
    rw [List.append_assoc, resolve_slash hroot] at hslash
    have hsegments : segments (47 :: tail) = [] :: segments tail := @segments_append_slash [] tail
    rw [htail, hsegments, walk_nil_cons]
    exact hslash

-- The cases are those of `route`: an empty root, a separator between the two, and none
theorem resolve_append (h : ∀ name ∈ cwd, Proper name)
    : resolve cwd (root ++ rest) = walk (resolve cwd root) (route cwd root rest) := by
  unfold route
  split
  . next hempty =>
    have hcwd : resolve cwd root = cwd := by
      rw [hempty.1]
      rfl
    rw [hcwd, hempty.1, List.nil_append, walk_append,
      walk_replicate_dotdot (Nat.le_refl cwd.length)]
    unfold resolve start
    rw [if_pos hempty.2]
  . next hempty =>
    split
    . next hslash =>
      by_cases hroot : root = []
      . have hhead : rest.head? ≠ some 47 := fun hhead => hempty ⟨hroot, hhead⟩
        rw [hroot]
        exact resolve_of_head hhead
      . apply resolve_append_segments hroot hslash
    . next hslash =>
      rw [not_or, not_or] at hslash
      have hhead : (base root ++ rest).head? ≠ some 47 := by
        rw [List.head?_append_of_ne_nil _ hslash.1]
        exact head_base
      have hback := walk_step_back (@proper_resolve cwd (dir root) h) hslash.1
      rw [← resolve_eq_step] at hback
      rw [walk_append, hback, ← resolve_dir_append hhead, ← List.append_assoc, dir_append_base]

theorem under_append_iff (h : ∀ name ∈ cwd, Proper name)
    : Under cwd root (root ++ rest) ↔ Returns cwd root rest := by
  unfold Under Returns
  rw [resolve_append h]
  apply isPrefix_walk_iff

end Resolve

end Path
end Fsw
