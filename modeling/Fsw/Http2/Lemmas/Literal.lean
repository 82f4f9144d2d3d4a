import Fsw.Http2.Impl.Client

/-!
This module contains a library for header blocks that sends every field as a literal without
indexing, with names and values as they are. Of the static table it knows the entry `:status: 200`
only.
-/

namespace Fsw
namespace Http2

def literalString (bs : Bytes) : Option (Bytes × Nat) :=
  match bs with
  | [] => none
  | n :: rest =>
    if n < 127 ∧ n.toNat ≤ rest.length then some (rest.take n.toNat, n.toNat + 1) else none

theorem literalString_le {bs s : Bytes} {n : Nat} (h : literalString bs = some (s, n))
    : n ≤ bs.length := by
  unfold literalString at h
  split at h
  . contradiction
  . split at h
    . next hle =>
      injection h with h
      injection h with _ hn
      rw [← hn, List.length_cons]
      omega
    . contradiction

def literalInflate (bs : Bytes) : Option InflateHd :=
  match bs with
  | [] => some ⟨0, none, true⟩
  | 0x88 :: _ => some ⟨1, some (Buffer.str ":status", Buffer.str "200"), false⟩
  | 0 :: rest =>
    match literalString rest with
    | none => none
    | some (name, n) =>
      match literalString (rest.drop n) with
      | none => none
      | some (value, m) => some ⟨1 + n + m, some (name, value), false⟩
  | _ => none

theorem literalInflate_processed {bs : Bytes} {r : InflateHd} (h : literalInflate bs = some r)
    : r.processed ≤ bs.length ∧ (r.final = false → 0 < r.processed) := by
  unfold literalInflate at h
  split at h
  . injection h with h
    rw [← h]
    simp
  . injection h with h
    rw [← h]
    simp
  . split at h
    . contradiction
    . next rest _ name n hname =>
      split at h
      . contradiction
      . next value m hvalue =>
        have h1 := literalString_le hname
        have h2 := literalString_le hvalue
        rw [List.length_drop] at h2
        injection h with h
        rw [← h, List.length_cons]
        dsimp only
        refine ⟨by omega, fun _ => by omega⟩
  . contradiction

def literalLib : Nghttp2 where
  Inflater := Unit
  Deflater := Unit
  inflateHd := fun _ bs => ((), literalInflate bs)
  inflateEndHeaders := fun _ => ()
  deflateHd := fun _ nvs =>
    ((), some (nvs.flatMap fun (name, value) =>
      0 :: .ofNat name.length :: name ++ .ofNat value.length :: value))
  deflateChangeTableSize := fun _ _ => some ()
  processed_le := fun _ _ _ h => (literalInflate_processed h).1
  processed_pos := fun _ _ _ h => (literalInflate_processed h).2

def Uninit.zero : Uninit where
  statusCode := 0
  errCode := 0
  behind := fun _ => List.replicate 6 0
  length_behind := fun s => by
    rw [List.length_replicate]
    omega

end Http2
end Fsw
