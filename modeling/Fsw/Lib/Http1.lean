import Mathlib.Data.List.DropRight
import Fsw.Lib.Decimal

namespace Fsw
namespace Http1

/--
A response: a status line, field lines up to the first empty line, and a body of as many octets as
the field `Content-Length` says.
-/
structure Message where
  status : Nat
  fields : List (Bytes × Bytes)
  body : Bytes
  deriving DecidableEq, Repr

def crlf : Bytes := [13, 10]

def colon : Bytes := [58, 32]

def blank (b : UInt8) : Bool :=
  b = 32 || b = 9

def trim (bs : Bytes) : Bytes :=
  (bs.dropWhile blank).rdropWhile blank

def lower (b : UInt8) : UInt8 :=
  if 65 ≤ b ∧ b ≤ 90 then b + 32 else b

def tchar (b : UInt8) : Bool :=
  48 ≤ b && b ≤ 57 || 65 ≤ b && b ≤ 90 || 97 ≤ b && b ≤ 122
    || b ∈ [33, 35, 36, 37, 38, 39, 42, 43, 45, 46, 94, 95, 96, 124, 126]

def fieldChar (b : UInt8) : Bool :=
  b = 9 || 32 ≤ b && b ≠ 127

def IsToken (bs : Bytes) : Prop :=
  bs ≠ [] ∧ ∀ b ∈ bs, tchar b = true

def IsFieldValue (bs : Bytes) : Prop :=
  trim bs = bs ∧ ∀ b ∈ bs, fieldChar b = true

instance {bs : Bytes} : Decidable (IsToken bs) :=
  inferInstanceAs (Decidable (_ ∧ _))

instance {bs : Bytes} : Decidable (IsFieldValue bs) :=
  inferInstanceAs (Decidable (_ ∧ _))

def takeLine : Bytes → Option (Bytes × Bytes)
  | [] => none
  | b :: bs =>
    if b = 13 ∧ bs.head? = some 10 then
      some ([], bs.tail)
    else
      (takeLine bs).map fun r => (b :: r.1, r.2)

def readStatus (statusLine : Bytes) : Option Nat :=
  -- `HTTP/1.1 `, three digits and a blank
  if statusLine.take 9 = [72, 84, 84, 80, 47, 49, 46, 49, 32] ∧ statusLine[12]? = some 32 then
    Decimal.read? ((statusLine.drop 9).take 3)
  else
    none

def readField (line : Bytes) : Option (Bytes × Bytes) :=
  let name := line.takeWhile (· ≠ 58)
  let value := trim (line.drop (name.length + 1))
  if 58 ∈ line ∧ IsToken name ∧ value.all fieldChar = true then some (name, value) else none

def readFields : Nat → Bytes → Option (List (Bytes × Bytes) × Bytes)
  | 0, _ => none
  | k + 1, bs =>
    (takeLine bs).bind fun r =>
      if r.1 = [] then
        some ([], r.2)
      else
        (readField r.1).bind fun field =>
          (readFields k r.2).map fun rs => (field :: rs.1, rs.2)

def contentLengthName : Bytes :=
  [99, 111, 110, 116, 101, 110, 116, 45, 108, 101, 110, 103, 116, 104]

def contentLength (fields : List (Bytes × Bytes)) : Option Nat :=
  (fields.find? fun f => f.1.map lower = contentLengthName).bind fun f => Decimal.read? f.2

def read (bs : Bytes) : Option (Message × Bytes) :=
  (takeLine bs).bind fun r =>
    (readStatus r.1).bind fun status =>
      (readFields (r.2.length + 1) r.2).bind fun rs =>
        (contentLength rs.1).bind fun n =>
          if n ≤ rs.2.length then some (⟨status, rs.1, rs.2.take n⟩, rs.2.drop n) else none

def readMany : Nat → Bytes → Option (List Message)
  | _, [] => some []
  | 0, _ => none
  | k + 1, bs => (read bs).bind fun r => (readMany k r.2).map (r.1 :: ·)

def readAll (bs : Bytes) : Option (List Message) :=
  readMany bs.length bs

def fieldLine (f : Bytes × Bytes) : Bytes :=
  f.1 ++ colon ++ f.2

section Line

variable {line rest : Bytes}

theorem takeLine_append (h : 13 ∉ line)
    : takeLine (line ++ (crlf ++ rest)) = some (line, rest) := by
  induction line with
  | nil => rfl
  | cons b line ih =>
    rw [List.mem_cons, not_or] at h
    have hb : ¬(b = 13 ∧ (line ++ (crlf ++ rest)).head? = some 10) := by
      rintro ⟨hb, _⟩
      exact h.1 hb.symm
    rw [List.cons_append, takeLine, if_neg hb, ih h.2]
    rfl

end Line

section Field

variable {name value : Bytes}

theorem trim_trim {bs : Bytes} : trim (trim bs) = trim bs := by
  have hdrop : (trim bs).dropWhile blank = trim bs := by
    rcases List.rdropWhile_prefix blank (bs.dropWhile blank) with ⟨t, ht⟩
    unfold trim
    cases hr : (bs.dropWhile blank).rdropWhile blank with
    | nil => rfl
    | cons x r =>
      rw [hr] at ht
      have hidem := List.dropWhile_idempotent blank bs
      rw [← ht, List.cons_append, List.dropWhile_cons] at hidem
      split at hidem
      . have hle := List.length_dropWhile_le blank (r ++ t)
        rw [hidem, List.length_cons] at hle
        omega
      . next hx => rw [List.dropWhile_cons, if_neg hx]
  rw [trim, hdrop]
  unfold trim
  rw [List.rdropWhile_idempotent]

theorem trim_cons_blank {bs : Bytes} : trim (32 :: bs) = trim bs := by
  rfl

theorem trim_eq_self {bs : Bytes} (h : ∀ b ∈ bs, blank b = false) : trim bs = bs := by
  have hdrop : bs.dropWhile blank = bs := by
    cases bs with
    | nil => rfl
    | cons b bs =>
      rw [List.forall_mem_cons] at h
      rw [List.dropWhile_cons, h.1]
      rfl
  rw [trim, hdrop, List.rdropWhile_eq_self_iff]
  intro hl
  rw [h _ (List.getLast_mem hl)]
  simp

theorem isFieldValue_ofNat {n : Nat} : IsFieldValue (Decimal.ofNat n) := by
  have hdigit (b : UInt8) (hb : 48 ≤ b ∧ b ≤ 57) : blank b = false ∧ fieldChar b = true := by
    have hle : 32 ≤ b := UInt8.le_trans (by decide) hb.1
    have h32 : b ≠ 32 := by
      rintro rfl
      exact absurd hb.1 (by decide)
    have h9 : b ≠ 9 := by
      rintro rfl
      exact absurd hb.1 (by decide)
    have h127 : b ≠ 127 := by
      rintro rfl
      exact absurd hb.2 (by decide)
    simp [blank, fieldChar, h32, h9, h127, hle]
  constructor
  . apply trim_eq_self
    intro b hb
    exact (hdigit b (Decimal.digit_of_mem_ofNat hb)).1
  . intro b hb
    exact (hdigit b (Decimal.digit_of_mem_ofNat hb)).2

theorem not_mem_of_isToken (h : IsToken name) : 58 ∉ name := by
  intro hmem
  have := h.2 58 hmem
  contradiction

theorem takeWhile_append_colon (value : Bytes) (h : 58 ∉ name)
    : (name ++ 58 :: value).takeWhile (· ≠ 58) = name := by
  induction name with
  | nil => rfl
  | cons b name ih =>
    rw [List.mem_cons, not_or] at h
    rw [List.cons_append, List.takeWhile_cons, ih h.2]
    simp [Ne.symm h.1]

theorem readField_iff
    : readField (fieldLine (name, value)) = some (name, value)
        ↔ IsToken name ∧ IsFieldValue value := by
  have hline : fieldLine (name, value) = name ++ 58 :: 32 :: value := by
    simp [fieldLine, colon]
  unfold readField
  rw [hline]
  dsimp only
  constructor
  . intro h
    split at h
    . next hcond =>
      injection h with h
      injection h with hname hvalue
      rw [hname] at hcond
      refine ⟨hcond.2.1, ?_, ?_⟩
      . rw [← hvalue, trim_trim]
      . rw [hname] at hvalue
        rw [hvalue] at hcond
        exact List.all_eq_true.mp hcond.2.2
    . contradiction
  . rintro ⟨hname, hvalue⟩
    have htake := takeWhile_append_colon (32 :: value) (not_mem_of_isToken hname)
    have hdrop : (name ++ 58 :: 32 :: value).drop (name.length + 1) = 32 :: value := by
      rw [← List.drop_drop, List.drop_left]
      rfl
    rw [htake, hdrop, trim_cons_blank, hvalue.1, if_pos]
    refine ⟨?_, hname, List.all_eq_true.mpr hvalue.2⟩
    simp

end Field

section Fields

variable {fields : List (Bytes × Bytes)} {rest : Bytes} {k : Nat}

def fieldLines (fields : List (Bytes × Bytes)) : Bytes :=
  fields.flatMap fun f => fieldLine f ++ crlf

theorem readFields_cons {f : Bytes × Bytes} (hline : 13 ∉ fieldLine f)
    : readFields (k + 1) (fieldLines (f :: fields) ++ rest)
        = (readField (fieldLine f)).bind fun field =>
            (readFields k (fieldLines fields ++ rest)).map fun rs => (field :: rs.1, rs.2) := by
  have hne : fieldLine f ≠ [] := by
    simp [fieldLine, colon]
  have hsplit : fieldLines (f :: fields) ++ rest = fieldLine f
    ++ (crlf ++ (fieldLines fields ++ rest)) := by
    simp [fieldLines]
  rw [readFields, hsplit, takeLine_append hline, Option.bind_some]
  dsimp only
  rw [if_neg hne]

theorem readFields_nil
    : readFields (k + 1) (fieldLines [] ++ (crlf ++ rest)) = some ([], rest) := by
  rfl

theorem readFields_eq (hlines : ∀ f ∈ fields, 13 ∉ fieldLine f)
    (hfields : ∀ f ∈ fields, readField (fieldLine f) = some f) (hk : fields.length < k)
    : readFields k (fieldLines fields ++ (crlf ++ rest)) = some (fields, rest) := by
  induction fields generalizing k with
  | nil =>
    cases k with
    | zero => contradiction
    | succ k => apply readFields_nil
  | cons f fields ih =>
    cases k with
    | zero => contradiction
    | succ k =>
      rw [List.forall_mem_cons] at hlines hfields
      rw [readFields_cons hlines.1, hfields.1, Option.bind_some,
        ih hlines.2 hfields.2 (Nat.lt_of_succ_lt_succ hk)]
      rfl

theorem readField_of_readFields {rest' : Bytes} (hlines : ∀ f ∈ fields, 13 ∉ fieldLine f)
    (h : readFields k (fieldLines fields ++ (crlf ++ rest)) = some (fields, rest'))
    : ∀ f ∈ fields, readField (fieldLine f) = some f := by
  induction fields generalizing k with
  | nil => apply List.forall_mem_nil
  | cons f fields ih =>
    cases k with
    | zero => contradiction
    | succ k =>
      rw [List.forall_mem_cons] at hlines ⊢
      rw [readFields_cons hlines.1] at h
      rcases Option.bind_eq_some_iff.mp h with ⟨f', hf', hrest⟩
      rcases Option.map_eq_some_iff.mp hrest with ⟨rs, hrs, heq⟩
      injection heq with heq hrest'
      injection heq with hhead htail
      rw [hhead] at hf'
      refine ⟨hf', ih (k := k) hlines.2 ?_⟩
      rw [hrs, ← htail, ← hrest']

end Fields

section Read

variable {line rest : Bytes} {fields : List (Bytes × Bytes)} {status n : Nat}

def render (line : Bytes) (fields : List (Bytes × Bytes)) : Bytes :=
  line ++ (crlf ++ (fieldLines fields ++ crlf))

theorem length_fieldLines (fields : List (Bytes × Bytes))
    : fields.length ≤ (fieldLines fields).length := by
  induction fields with
  | nil => exact Nat.le_refl 0
  | cons f fields ih =>
    have hcons : fieldLines (f :: fields) = fieldLine f ++ crlf ++ fieldLines fields := rfl
    rw [hcons, List.length_append, List.length_append, List.length_cons]
    simp only [crlf, List.length_cons, List.length_nil]
    omega

theorem read_render (hline : 13 ∉ line) (hstatus : readStatus line = some status)
    (hlines : ∀ f ∈ fields, 13 ∉ fieldLine f)
    (hfields : ∀ f ∈ fields, readField (fieldLine f) = some f) (hn : contentLength fields = some n)
    (hle : n ≤ rest.length)
    : read (render line fields ++ rest) = some (⟨status, fields, rest.take n⟩, rest.drop n) := by
  have hsplit : render line fields ++ rest
    = line ++ (crlf ++ (fieldLines fields ++ (crlf ++ rest))) := by
    simp [render]
  have hk : fields.length < (fieldLines fields ++ (crlf ++ rest)).length + 1 := by
    have := length_fieldLines fields
    rw [List.length_append]
    omega
  rw [read, hsplit, takeLine_append hline, Option.bind_some, hstatus, Option.bind_some,
    readFields_eq hlines hfields hk, Option.bind_some, hn, Option.bind_some, if_pos hle]

theorem readField_of_read {m : Message} {rest' : Bytes} (hline : 13 ∉ line)
    (hlines : ∀ f ∈ fields, 13 ∉ fieldLine f)
    (h : read (render line fields ++ rest) = some (m, rest')) (hm : m.fields = fields)
    : ∀ f ∈ fields, readField (fieldLine f) = some f := by
  have hsplit : render line fields ++ rest
    = line ++ (crlf ++ (fieldLines fields ++ (crlf ++ rest))) := by
    simp [render]
  rw [read, hsplit, takeLine_append hline, Option.bind_some] at h
  rcases Option.bind_eq_some_iff.mp h with ⟨status, _, h⟩
  rcases Option.bind_eq_some_iff.mp h with ⟨rs, hrs, h⟩
  rcases Option.bind_eq_some_iff.mp h with ⟨n, _, h⟩
  split at h
  . injection h with h
    injection h with hmessage _
    have hfields : rs.1 = fields := by
      rw [← hm, ← hmessage]
    rw [← hfields] at hrs hlines ⊢
    apply readField_of_readFields hlines hrs
  . contradiction

end Read

section Many

variable {ms : List Message} {k : Nat}

theorem readMany_cons {bs rest : Bytes} {m : Message} (hne : bs ≠ []) (h : read bs = some (m, rest))
    : readMany (k + 1) bs = (readMany k rest).map (m :: ·) := by
  cases bs with
  | nil => contradiction
  | cons b bs =>
    rw [readMany, h, Option.bind_some]
    intro heq
    cases heq

theorem readMany_flatMap {α : Type} {l : List α} {bytes : α → Bytes} {message : α → Message}
    (hne : ∀ a ∈ l, bytes a ≠ [])
    (h : ∀ a ∈ l, ∀ rest, read (bytes a ++ rest) = some (message a, rest))
    (hk : (l.flatMap bytes).length ≤ k)
    : readMany k (l.flatMap bytes) = some (l.map message) := by
  induction l generalizing k with
  | nil => cases k <;> rfl
  | cons a l ih =>
    rw [List.forall_mem_cons] at hne h
    have hpos := List.length_pos_iff.mpr hne.1
    rw [List.flatMap_cons, List.length_append] at hk
    cases k with
    | zero => omega
    | succ k =>
      rw [List.flatMap_cons, readMany_cons _ (h.1 _), ih hne.2 h.2 (by omega)]
      . rfl
      . simp [hne.1]

end Many

end Http1
end Fsw
