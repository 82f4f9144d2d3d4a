import Fsw.Hpack.Impl.Bufs

namespace Fsw
namespace Hpack

namespace Bufs

def filled (front tail : Bytes) : Bufs :=
  ⟨front ++ tail, front.length⟩

variable {front tail : Bytes} {held b : UInt8}

theorem curAvail_filled : (filled front tail).curAvail = tail.length := by
  rw [curAvail, filled, List.length_append, Nat.add_sub_cancel_left]

theorem contents_filled : (filled front tail).contents = front := by
  rw [contents, filled, List.take_left]

theorem set_filled : (front ++ held :: tail).set front.length b = front ++ b :: tail := by
  rw [List.set_append_right _ _ (Nat.le_refl _), Nat.sub_self, List.set_cons_zero]

theorem lt_filled : front.length < (front ++ held :: tail).length := by
  rw [List.length_append, List.length_cons]
  omega

theorem fastAddb_filled
    : (filled front (held :: tail)).fastAddb b = .ok (filled (front ++ [b]) tail) := by
  rw [fastAddb, filled, if_pos lt_filled, set_filled, filled, List.append_assoc, List.length_append]
  rfl

theorem fastAddbHold_filled
    : (filled front (held :: tail)).fastAddbHold b = .ok (filled front (b :: tail)) := by
  rw [fastAddbHold, filled, if_pos lt_filled, set_filled, filled]

theorem fastOrb_filled
    : (filled front (held :: tail)).fastOrb b = .ok (filled (front ++ [held ||| b]) tail) := by
  have hget : (front ++ held :: tail)[front.length]? = some held := by simp
  rw [fastOrb, filled, hget]
  dsimp only
  rw [set_filled, filled, List.append_assoc, List.length_append]
  rfl

theorem fastOrbHold_filled
    : (filled front (held :: tail)).fastOrbHold b = .ok (filled front ((held ||| b) :: tail)) := by
  have hget : (front ++ held :: tail)[front.length]? = some held := by simp
  rw [fastOrbHold, filled, hget]
  dsimp only
  rw [set_filled, filled]

theorem addb_filled : (filled front (held :: tail)).addb b = .ok (filled (front ++ [b]) tail) := by
  rw [addb, ensureAddb, curAvail_filled, List.length_cons, if_pos (Nat.succ_pos _)]
  exact fastAddb_filled

theorem addbHold_filled
    : (filled front (held :: tail)).addbHold b = .ok (filled front (b :: tail)) := by
  rw [addbHold, ensureAddb, curAvail_filled, List.length_cons, if_pos (Nat.succ_pos _)]
  exact fastAddbHold_filled

theorem addb_nil : (filled front []).addb b = .error .bufferError := by
  rw [addb, ensureAddb, curAvail_filled]
  rfl

theorem addbHold_nil : (filled front []).addbHold b = .error .bufferError := by
  rw [addbHold, ensureAddb, curAvail_filled]
  rfl

theorem add_filled {bs : Bytes} (h : bs.length ≤ tail.length)
    : (filled front tail).add bs = .ok (filled (front ++ bs) (tail.drop bs.length)) := by
  rw [add, curAvail_filled, if_pos h, filled, filled, Bytes.write, List.length_append]
  simp

theorem add_full {bs : Bytes} (h : tail.length < bs.length)
    : (filled front tail).add bs = .error .bufferError := by
  rw [add, curAvail_filled, if_neg (by omega)]

end Bufs
end Hpack
end Fsw
