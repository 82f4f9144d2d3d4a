import Fsw.Http2.Lemmas.Entries

namespace Fsw
namespace Http2

variable {lib : Nghttp2} {client : Client lib} {entry : Entry} {id : BitVec 16} {n : Nat}

def IsSetting (id : BitVec 16) : Prop :=
  id ∈ ([0x1, 0x3, 0x4, 0x5, 0x6] : List (BitVec 16))

instance : Decidable (IsSetting id) :=
  inferInstanceAs (Decidable (_ ∈ _))

theorem IsSetting.toNat_lt (h : IsSetting id) : id.toNat < 256 := by
  simp only [IsSetting, List.mem_cons, List.not_mem_nil, or_false] at h
  rcases h with rfl | rfl | rfl | rfl | rfl
  . decide
  . decide
  . decide
  . decide
  . decide

def remainder (p : Bytes) : Bytes :=
  p.drop (6 * (p.length / 6))

/--
`size` bytes of memory have the payload `p` at the beginning. They are enough, and an incomplete
entry at the end is none that is used.
-/
structure SelfContained (p : Bytes) (size : Nat) : Prop where
  size_le : 6 * ((p.length + 5) / 6) ≤ size
  ignored : remainder p = [] ∨ (∃ b, remainder p = [b] ∧ b ≠ 0)
    ∨ 2 ≤ (remainder p).length ∧ ¬IsSetting (entryOf (remainder p)).1

section Remainder

variable {p rest : Bytes}

theorem length_remainder : (remainder p).length = p.length % 6 := by
  rw [remainder, List.length_drop]
  omega

theorem count_remainder (h : remainder p ≠ []) : (p.length + 5) / 6 = p.length / 6 + 1 := by
  have hlength := List.length_pos_of_ne_nil h
  rw [length_remainder] at hlength
  omega

theorem entriesOf_remainder
    : entriesOf (p.length / 6 + 1) (p ++ rest) = entriesOf (p.length / 6) p
        ++ [entryOf (remainder p ++ rest)] := by
  rw [entriesOf_succ, entriesOf_append (by omega), List.drop_append_of_le_length (by omega)]
  rfl

theorem Settings.update_of_not {settings : Settings} (h : ¬IsSetting entry.1)
    : settings.update entry = settings := by
  simp only [IsSetting, List.mem_cons, List.not_mem_nil, or_false, not_or] at h
  rcases h with ⟨h1, h3, h4, h5, h6⟩
  simp only [update, h1, h3, h4, h5, h6, ↓reduceIte]

theorem Settings.update_injective {settings : Settings} {entry' : Entry} (hid : IsSetting entry.1)
    (hsame : entry'.1 = entry.1) (h : settings.update entry = settings.update entry')
    : entry.2 = entry'.2 := by
  rcases entry with ⟨id, value⟩
  rcases entry' with ⟨id', value'⟩
  dsimp only at hsame
  subst hsame
  simp only [IsSetting, List.mem_cons, List.not_mem_nil, or_false] at hid
  rcases hid with rfl | rfl | rfl | rfl | rfl
  . exact congrArg Settings.headerTableSize h
  . exact congrArg Settings.maxConcurrentStreams h
  . exact congrArg Settings.windowSize h
  . exact congrArg Settings.maxFrameSize h
  . exact congrArg Settings.maxHeaderListSize h

theorem entryOf_concat {q : Bytes} {x : UInt8} (h : q.length = 5)
    : (entryOf (q ++ x :: rest)).1 = (entryOf q).1
        ∧ (entryOf (q ++ x :: rest)).2
          = BitVec.ofNat 32 (x.toNat + 256 * Bytes.loadLE (q.drop 2).reverse) := by
  match q with
  | [b0, b1, b2, b3, b4] => exact ⟨rfl, rfl⟩

theorem entryOf_concat_ne {q : Bytes} (h : q.length = 5)
    : (entryOf (q ++ 0 :: rest)).2 ≠ (entryOf (q ++ 1 :: rest)).2 := by
  have hlt := Bytes.loadLE_lt (q.drop 2).reverse
  rw [List.length_reverse, List.length_drop, h] at hlt
  rw [(entryOf_concat h).2, (entryOf_concat h).2]
  intro heq
  have heq := congrArg BitVec.toNat heq
  rw [BitVec.toNat_ofNat, BitVec.toNat_ofNat] at heq
  change (0 + _) % _ = (1 + _) % _ at heq
  omega

end Remainder

namespace Client

/--
Two runs of `parse_setting_frame` with the same payload, whatever lies behind it in `size` bytes of
memory
-/
def PayloadOnly (client : Client lib) (p : Bytes) (size : Nat) : Prop :=
  ∀ (frame : Frame) n rest rest', p.length + rest.length = size → p.length + rest'.length = size →
    ∃ client₁ ret₁ client₂ ret₂,
      client.parseSettingFrame { frame with payload := p ++ rest, payloadLength := p.length } n
        = .ok (client₁, ret₁)
      ∧ client.parseSettingFrame { frame with payload := p ++ rest', payloadLength := p.length } n
        = .ok (client₂, ret₂)
      ∧ client₁.remoteSettings = client₂.remoteSettings

section PayloadOnly

variable {p rest : Bytes} {size : Nat}

theorem not_isSetting_of_remainder
    (hignored : (∃ b, remainder p = [b] ∧ b ≠ 0)
      ∨ 2 ≤ (remainder p).length ∧ ¬IsSetting (entryOf (remainder p)).1)
    (hrest : 6 ≤ (remainder p ++ rest).length) : ¬IsSetting (entryOf (remainder p ++ rest)).1 := by
  rcases hignored with ⟨b, hb, hne⟩ | ⟨htwo, hid⟩
  . rw [hb] at hrest ⊢
    match rest with
    | [] => contradiction
    | x :: rest =>
      have hid : (entryOf ([b] ++ x :: rest)).1
        = BitVec.ofNat 16 (x.toNat + 256 * (b.toNat + 256 * 0)) := rfl
      have hpos : b.toNat ≠ 0 := by
        intro hzero
        exact hne (UInt8.toNat_inj.mp hzero)
      have hx := x.toNat_lt
      have hb := b.toNat_lt
      intro hsetting
      have hlt := hsetting.toNat_lt
      rw [hid, BitVec.toNat_ofNat] at hlt
      omega
  . have hsame : (entryOf (remainder p ++ rest)).1 = (entryOf (remainder p)).1 := by
      unfold entryOf
      dsimp only
      rw [List.take_append_of_le_length htwo]
    rw [hsame]
    exact hid

-- If the condition is not met, the bytes behind the payload can complete the entry.
theorem exists_completion (hne : remainder p ≠ [])
    (h : ¬((∃ b, remainder p = [b] ∧ b ≠ 0) ∨ 2 ≤ (remainder p).length
      ∧ ¬IsSetting (entryOf (remainder p)).1))
    : ∃ q, (remainder p ++ q).length = 5 ∧ IsSetting (entryOf (remainder p ++ q)).1 := by
  have hlt : (remainder p).length < 6 := by
    rw [length_remainder]
    omega
  rw [not_or] at h
  match hr : remainder p with
  | [] => contradiction
  | [b] =>
    have hb : b = 0 := by
      by_contra hb
      exact h.1 ⟨b, hr, hb⟩
    rw [hb]
    exact ⟨[3, 0, 0, 0], rfl, by decide⟩
  | b :: b' :: bs =>
    rw [hr] at h hlt
    have hid : IsSetting (entryOf (b :: b' :: bs)).1 := by
      by_contra hid
      exact h.2 ⟨by simp, hid⟩
    refine ⟨List.replicate (3 - bs.length) 0, ?_, hid⟩
    simp only [List.length_cons] at hlt
    rw [List.length_append, List.length_replicate, List.length_cons, List.length_cons]
    omega

variable (hlib : ∀ deflater size, (lib.deflateChangeTableSize deflater size).isSome)

include hlib

theorem parseSettings_short (client : Client lib) (value : BitVec 32)
    {buf : Bytes} (h : buf.length < 6 * n)
    : parseSettings client buf value n = .error .outOfBounds := by
  induction n generalizing client buf value with
  | zero => contradiction
  | succ n ih =>
    unfold parseSettings
    by_cases hread : 6 ≤ buf.length
    . have hle : (buf.drop 6).length < 6 * n := by
        rw [List.length_drop]
        omega
      rw [Bytes.read?_zero hread]
      dsimp only
      split
      . next heq =>
        have htrue := congrArg Prod.snd heq
        rw [parseSetting_true hlib client] at htrue
        contradiction
      . exact ih _ _ hle
    . rw [Bytes.read?, Nat.zero_add, if_neg hread]

theorem parseSettingFrame_remainder (client : Client lib) (frame : Frame)
    (n : Nat) (hne : remainder p ≠ []) (hle : 6 * ((p.length + 5) / 6) ≤ (p ++ rest).length)
    : ∃ client' ret,
        client.parseSettingFrame { frame with payload := p ++ rest, payloadLength := p.length } n
          = .ok (client', ret)
        ∧ client'.remoteSettings
          = (client.remoteSettings.updated (entriesOf (p.length / 6) p)).update
          (entryOf (remainder p ++ rest)) := by
  rcases parseSettingFrame_updated hlib client
    { frame with payload := p ++ rest, payloadLength := p.length } n hle
    with ⟨client', ret, hparse, hsettings⟩
  dsimp only at hsettings
  rw [count_remainder hne, entriesOf_remainder, Settings.updated_concat] at hsettings
  exact ⟨client', ret, hparse, hsettings⟩

theorem PayloadOnly.size_le (hsize : p.length ≤ size) (h : client.PayloadOnly p size)
    : 6 * ((p.length + 5) / 6) ≤ size := by
  by_contra hlt
  have hzeros : p.length + (List.replicate (size - p.length) (0 : UInt8)).length = size := by
    rw [List.length_replicate]
    omega
  rcases h ⟨[], 0, FrameType.SETTINGS, 0, 0, none⟩ 0 _ _ hzeros hzeros with
    ⟨client₁, ret₁, _, _, hparse, _⟩
  unfold parseSettingFrame at hparse
  dsimp only at hparse
  rw [parseSettings_short hlib client 0 (by rw [List.length_append, hzeros]; omega)] at hparse
  contradiction

theorem PayloadOnly.selfContained (hsize : p.length ≤ size) (h : client.PayloadOnly p size)
    : SelfContained p size := by
  have hle := h.size_le hlib hsize
  refine ⟨hle, ?_⟩
  by_cases hnil : remainder p = []
  . exact .inl hnil
  right
  by_contra hignored
  rcases exists_completion hnil hignored with ⟨q, hq, hid⟩
  have hcount := count_remainder hnil
  have hremainder := @length_remainder p
  have hroom : q.length + 1 ≤ size - p.length := by
    rw [List.length_append] at hq
    omega
  have hrest (x : UInt8)
    : p.length + (q ++ x :: List.replicate (size - p.length - q.length - 1) 0).length = size := by
    rw [List.length_append, List.length_cons, List.length_replicate]
    omega
  have hmem (x : UInt8) : 6 * ((p.length + 5) / 6)
      ≤ (p ++ (q ++ x :: List.replicate (size - p.length - q.length - 1) 0)).length := by
    rw [List.length_append, hrest]
    exact hle
  let frame : Frame := ⟨[], 0, FrameType.SETTINGS, 0, 0, none⟩
  rcases h frame 0 _ _ (hrest 0) (hrest 1) with
    ⟨client₁, ret₁, client₂, ret₂, hparse₁, hparse₂, hsame⟩
  rcases parseSettingFrame_remainder hlib client frame 0 hnil (hmem 0) with
    ⟨client₁', ret₁', hparse₁', hsettings₁⟩
  rcases parseSettingFrame_remainder hlib client frame 0 hnil (hmem 1) with
    ⟨client₂', ret₂', hparse₂', hsettings₂⟩
  rw [hparse₁] at hparse₁'
  rw [hparse₂] at hparse₂'
  rcases ok_pair hparse₁' with ⟨rfl, _⟩
  rcases ok_pair hparse₂' with ⟨rfl, _⟩
  rw [hsettings₁, hsettings₂, ← List.append_assoc, ← List.append_assoc] at hsame
  apply entryOf_concat_ne hq
  apply Settings.update_injective _ _ hsame
  . rw [(entryOf_concat hq).1]
    exact hid
  . rw [(entryOf_concat hq).1, (entryOf_concat hq).1]

theorem payloadOnly_of_selfContained (client : Client lib) (h : SelfContained p size)
    : client.PayloadOnly p size := by
  intro frame n rest rest' hrest hrest'
  have hmem {rest : Bytes} (hrest : p.length + rest.length = size)
      : 6 * ((p.length + 5) / 6) ≤ (p ++ rest).length := by
    rw [List.length_append, hrest]
    exact h.size_le
  by_cases hnil : remainder p = []
  . have hlength := @length_remainder p
    rw [hnil, List.length_nil] at hlength
    have hp : p.length = 6 * (p.length / 6) := by omega
    rcases parseSettingFrame_entries hlib client
      { frame with payload := p ++ rest, payloadLength := p.length } n hp
      rfl rfl with ⟨client₁, ret₁, hparse₁, hsettings₁⟩
    rcases parseSettingFrame_entries hlib client
      { frame with payload := p ++ rest', payloadLength := p.length } n hp
      rfl rfl with ⟨client₂, ret₂, hparse₂, hsettings₂⟩
    exact ⟨client₁, ret₁, client₂, ret₂, hparse₁, hparse₂, hsettings₁.trans hsettings₂.symm⟩
  . have hignored := h.ignored.resolve_left hnil
    have hcount := count_remainder hnil
    have hlength := @length_remainder p
    have hsize := h.size_le
    have hnot {rest : Bytes} (hrest : p.length + rest.length = size)
        : ¬IsSetting (entryOf (remainder p ++ rest)).1 := by
      apply not_isSetting_of_remainder hignored
      rw [List.length_append]
      omega
    rcases parseSettingFrame_remainder hlib client frame n hnil (hmem hrest) with
      ⟨client₁, ret₁, hparse₁, hsettings₁⟩
    rcases parseSettingFrame_remainder hlib client frame n hnil (hmem hrest') with
      ⟨client₂, ret₂, hparse₂, hsettings₂⟩
    rw [Settings.update_of_not (hnot hrest)] at hsettings₁
    rw [Settings.update_of_not (hnot hrest')] at hsettings₂
    exact ⟨client₁, ret₁, client₂, ret₂, hparse₁, hparse₂, hsettings₁.trans hsettings₂.symm⟩

theorem parseSettingFrame_payloadOnly_iff (client : Client lib) (p : Bytes)
    (size : Nat) (hsize : p.length ≤ size)
    : client.PayloadOnly p size ↔ SelfContained p size := by
  constructor
  . intro h
    exact h.selfContained hlib hsize
  . intro h
    exact payloadOnly_of_selfContained hlib client h

end PayloadOnly

-- An incomplete entry with an identifier that does not exist, in the read buffer behind the header
theorem parseSettingFrame_payloadOnly_unknown
    : literalStart.PayloadOnly [0, 4, 0, 0, 1, 0, 0, 9, 0] 1016 := by
  apply (parseSettingFrame_payloadOnly_iff literalLib_deflates literalStart
    [0, 4, 0, 0, 1, 0, 0, 9, 0] 1016
    (by decide)).mpr
  exact ⟨by decide, .inr (.inr ⟨by decide, by decide⟩)⟩

-- Of the last entry there is only the identifier.
theorem parseSettingFrame_not_payloadOnly
    : (∃ client' ret, literalStart.parseSettingFrame
            ⟨[0, 3] ++ ([0, 0, 0, 7] ++ List.replicate 1010 0), 2, FrameType.SETTINGS, 0, 0, none⟩ 9
            = .ok (client', ret)
          ∧ client'.remoteSettings.maxConcurrentStreams = 7)
        ∧ ¬literalStart.PayloadOnly [0, 3] 1016 := by
  constructor
  . have hle : 6 * ((2 + 5) / 6)
      ≤ ([0, 3] ++ ([0, 0, 0, 7] ++ List.replicate 1010 0) : Bytes).length := by
      rw [List.length_append, List.length_append, List.length_replicate]
      decide
    rcases parseSettingFrame_updated literalLib_deflates literalStart
      ⟨[0, 3] ++ ([0, 0, 0, 7] ++ List.replicate 1010 0), 2, FrameType.SETTINGS, 0, 0, none⟩ 9 hle
      with ⟨client', ret, hparse, hsettings⟩
    refine ⟨client', ret, hparse, ?_⟩
    rw [hsettings]
    rfl
  . intro h
    rcases (h.selfContained literalLib_deflates (by decide)).ignored with
      hnil | ⟨b, hb, _⟩ | ⟨_, hid⟩
    . exact absurd hnil (by decide)
    . have hlength := congrArg List.length hb
      exact absurd hlength (by decide : ¬2 = 1)
    . exact absurd (by decide) hid

end Client
end Http2
end Fsw
