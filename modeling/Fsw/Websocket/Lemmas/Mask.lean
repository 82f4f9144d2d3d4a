import Fsw.Websocket.Impl.Mask
import Fsw.Websocket.Lemmas.Masked

namespace Fsw
namespace Websocket

theorem getD_maskOctets {data maskKey : Bytes} {pos i : Nat} (hi : i < data.length)
    : (maskOctets data maskKey pos).getD i 0
        = data.getD i 0 ^^^ maskKey.getD ((pos + i) % 4) 0 := by
  simp [maskOctets, hi]

namespace InPlace

variable {as bs cs mem maskKey : Bytes}

theorem load_append {pos n : Nat} (has : as.length = pos) (hbs : bs.length = n)
    : load (as ++ (bs ++ cs)) pos n = .ok bs := by
  subst has hbs
  have hread : Bytes.read? (as ++ (bs ++ cs)) as.length bs.length = some bs := by
    rw [Bytes.read?, if_pos (by simp only [List.length_append]; omega),
      List.drop_left, List.take_left]
  rw [load, hread]

theorem store_append {bs' : Bytes} {pos : Nat} (has : as.length = pos)
    (hbs : bs.length = bs'.length)
    : store (as ++ (bs ++ cs)) pos bs' = .ok (as ++ (bs' ++ cs)) := by
  subst has
  rw [store, if_pos (by simp only [List.length_append]; omega), Bytes.write_append hbs]

theorem xorWord_append {word : Bytes} {pos p : Nat} (has : as.length = pos)
    (hword : word.length = 8) (hkey : maskKey.length = 4) (hp : p % 4 = 0)
    : xorWord
        ((BitVec.ofNat 64 (Bytes.loadLE maskKey) <<< 32) ||| BitVec.ofNat 64 (Bytes.loadLE maskKey))
          (as ++ (word ++ cs)) pos
        = .ok (as ++ (maskOctets word maskKey p ++ cs)) := by
  have hlength : word.length = (maskOctets word maskKey p).length := by
    rw [length_maskOctets]
  rw [xorWord, load_append has hword]
  simp only [bind, Except.bind]
  rw [storeLE_xor_maskKey64 hword hkey hp, store_append has hlength]

theorem xorOctet_append {b : UInt8} {data i : Nat} (has : as.length = data + i)
    (hkey : maskKey.length = 4)
    : xorOctet maskKey data (as ++ ([b] ++ cs)) i
        = .ok (as ++ (maskOctets [b] maskKey i ++ cs)) := by
  have hi : i % 4 < 4 := Nat.mod_lt _ (by decide)
  have hload : load maskKey (i % MASK_LEN) 1 = .ok [maskKey.getD (i % 4) 0] := by
    match maskKey, hkey with
    | [k₀, k₁, k₂, k₃], _ =>
      obtain h | h | h | h : i % 4 = 0 ∨ i % 4 = 1 ∨ i % 4 = 2 ∨ i % 4 = 3 := by omega
      all_goals
        unfold MASK_LEN
        rw [h]
        rfl
  rw [xorOctet, load_append has (List.length_singleton), hload]
  simp only [bind, Except.bind]
  exact store_append has (List.length_singleton.trans List.length_singleton.symm)

theorem words_append {data n : Nat} (has : as.length = data) (hbs : bs.length = n * 8)
    (hkey : maskKey.length = 4)
    : words ((BitVec.ofNat 64 (Bytes.loadLE maskKey) <<< 32) ||| BitVec.ofNat 64
        (Bytes.loadLE maskKey)) data n
          (as ++ (bs ++ cs))
        = .ok (as ++ (maskOctets bs maskKey 0 ++ cs)) := by
  induction n generalizing bs cs with
  | zero =>
    have hnil : bs = [] := List.eq_nil_of_length_eq_zero (by omega)
    rw [hnil]
    rfl
  | succ n ih =>
    obtain ⟨bs', word, rfl, hbs', hword⟩ : ∃ bs' word, bs = bs' ++ word ∧ bs'.length = n * 8
      ∧ word.length = 8 := by
      refine ⟨bs.take (n * 8), bs.drop (n * 8), (List.take_append_drop _ _).symm, ?_, ?_⟩
      . rw [List.length_take]
        omega
      . rw [List.length_drop]
        omega
    have hlength : (as ++ maskOctets bs' maskKey 0).length = data + n * 8 := by
      rw [List.length_append, length_maskOctets, has, hbs']
    unfold words at ih ⊢
    rw [List.range_succ, List.foldlM_append, List.append_assoc, ih hbs']
    simp only [bind, Except.bind, List.foldlM_cons, List.foldlM_nil]
    rw [← List.append_assoc as, xorWord_append hlength hword hkey (show n * 8 % 4 = 0 by omega),
      maskOctets_append]
    simp [hbs', List.append_assoc, pure, Except.pure]

theorem foldlM_xorOctet {data start : Nat} (has : as.length = data + start)
    (hkey : maskKey.length = 4)
    : (List.range' start bs.length).foldlM (xorOctet maskKey data) (as ++ (bs ++ cs))
        = .ok (as ++ (maskOctets bs maskKey start ++ cs)) := by
  induction bs generalizing as start with
  | nil => rfl
  | cons b bs ih =>
    have hsplit : as ++ (b :: bs ++ cs) = as ++ ([b] ++ (bs ++ cs)) := rfl
    have hlength : (as ++ maskOctets [b] maskKey start).length = data + (start + 1) := by
      rw [List.length_append, length_maskOctets, has]
      rfl
    rw [List.length_cons, List.range'_succ, List.foldlM_cons, hsplit, xorOctet_append has hkey]
    simp only [bind, Except.bind]
    rw [← List.append_assoc as, ih hlength, List.append_assoc as,
      ← List.append_assoc (maskOctets _ _ _)]
    congr 3

theorem octets_append {data start len : Nat} (has : as.length = data + start)
    (hbs : bs.length = len - start) (hkey : maskKey.length = 4)
    : octets maskKey data start len (as ++ (bs ++ cs))
        = .ok (as ++ (maskOctets bs maskKey start ++ cs)) := by
  rw [octets, ← hbs, foldlM_xorOctet has hkey]

theorem mask_append {data len : Nat} (has : as.length = data) (hbs : bs.length = len)
    (hkey : maskKey.length = MASK_LEN)
    : mask (as ++ (bs ++ cs)) data len maskKey = .ok (as ++ (maskOctets bs maskKey 0 ++ cs)) := by
  obtain ⟨ws, rest, rfl, hws, hrest⟩
      : ∃ ws rest, bs = ws ++ rest ∧ ws.length = len / 8 * 8 ∧ rest.length = len - len / 8 * 8 := by
    refine ⟨bs.take (len / 8 * 8), bs.drop (len / 8 * 8), (List.take_append_drop _ _).symm, ?_, ?_⟩
    . rw [List.length_take]
      omega
    . rw [List.length_drop]
      omega
  have hload : load maskKey 0 MASK_LEN = .ok maskKey := by
    have hload : load ([] ++ (maskKey ++ [])) 0 MASK_LEN = .ok maskKey := load_append rfl hkey
    rw [List.append_nil, List.nil_append] at hload
    exact hload
  have hlength : (as ++ maskOctets ws maskKey 0).length = data + len / 8 * 8 := by
    rw [List.length_append, length_maskOctets, has, hws]
  rw [mask, hload]
  simp only [bind, Except.bind]
  rw [List.append_assoc, words_append has hws hkey]
  dsimp only
  rw [← List.append_assoc as, octets_append hlength hrest hkey, maskOctets_append]
  simp [hws, List.append_assoc]

theorem mask_eq_write {data len : Nat} (hmem : data + len ≤ mem.length)
    (hkey : maskKey.length = MASK_LEN)
    : mask mem data len maskKey
        = .ok (mem.take data
          ++ (maskOctets ((mem.drop data).take len) maskKey 0 ++ mem.drop (data + len))) := by
  have hsplit : mem = mem.take data ++ ((mem.drop data).take len ++ mem.drop (data + len)) := by
    rw [← List.drop_drop, List.take_append_drop, List.take_append_drop]
  have htake : (mem.take data).length = data := by
    rw [List.length_take]
    omega
  have hdrop : ((mem.drop data).take len).length = len := by
    rw [List.length_take, List.length_drop]
    omega
  conv =>
    lhs
    rw [hsplit]
  exact mask_append htake hdrop hkey

theorem mask_xor (mem maskKey : Bytes) (data len : Nat) (hmem : data + len ≤ mem.length)
    (hkey : maskKey.length = MASK_LEN)
    : ∃ mem', mask mem data len maskKey = .ok mem'
        ∧ mem'.length = mem.length
        ∧ (∀ i < len,
          mem'.getD (data + i) 0 = mem.getD (data + i) 0 ^^^ maskKey.getD (i % MASK_LEN) 0)
        ∧ (∀ j, j < data ∨ data + len ≤ j → mem'.getD j 0 = mem.getD j 0)
        ∧ (mem'.drop data).take len = Websocket.mask ((mem.drop data).take len) maskKey
        ∧ mask mem' data len maskKey = .ok mem := by
  have htake : (mem.take data).length = data := by
    rw [List.length_take]
    omega
  have hslice : ((mem.drop data).take len).length = len := by
    rw [List.length_take, List.length_drop]
    omega
  have hbs : (maskOctets ((mem.drop data).take len) maskKey 0).length = len := by
    rw [length_maskOctets, hslice]
  have hwrite
    : mem.take data ++ (maskOctets ((mem.drop data).take len) maskKey 0 ++ mem.drop (data + len))
      = mem.write data (maskOctets ((mem.drop data).take len) maskKey 0) := by
    rw [Bytes.write, hbs, List.append_assoc]
  refine ⟨_, mask_eq_write hmem hkey, ?_, ?_, ?_, ?_, ?_⟩
  . rw [hwrite, Bytes.length_write (by omega)]
  . intro i hi
    rw [List.getD_eq_getElem?_getD, List.getElem?_append_right (by omega),
      htake, Nat.add_sub_cancel_left,
      List.getElem?_append_left (by omega), ← List.getD_eq_getElem?_getD,
      getD_maskOctets (by omega), Nat.zero_add]
    congr 1
    rw [List.getD_eq_getElem?_getD, List.getElem?_take_of_lt hi, List.getElem?_drop,
      List.getD_eq_getElem?_getD]
  . intro j hj
    rw [hwrite]
    apply Bytes.getD_write
    . omega
    . omega
  . rw [List.drop_left' htake, List.take_left' hbs, mask_eq hkey]
  . rw [mask_append htake hbs hkey, maskOctets_maskOctets, ← List.drop_drop, List.take_append_drop,
      List.take_append_drop]

-- Nine octets inside of twelve, so that there is one word and a tail of one octet.
theorem mask_xor_nine
    : 1 + 9 ≤ (List.replicate 12 (0x11 : UInt8)).length ∧ (Buffer.str "258E").length = MASK_LEN
        ∧ ∃ mem', mask (List.replicate 12 0x11) 1 9 (Buffer.str "258E") = .ok mem'
            ∧ mem'.length = (List.replicate 12 (0x11 : UInt8)).length
            ∧ (∀ i < 9, mem'.getD (1 + i) 0
                = (List.replicate 12 (0x11 : UInt8)).getD (1 + i) 0 ^^^ (Buffer.str "258E").getD
                  (i % MASK_LEN) 0)
            ∧ (∀ j, j < 1 ∨ 1 + 9 ≤ j → mem'.getD j 0 = (List.replicate 12 (0x11 : UInt8)).getD j 0)
            ∧ (mem'.drop 1).take 9
                = Websocket.mask (((List.replicate 12 (0x11 : UInt8)).drop 1).take 9)
                  (Buffer.str "258E")
            ∧ mask mem' 1 9 (Buffer.str "258E") = .ok (List.replicate 12 0x11) :=
  ⟨by decide, by decide,
    mask_xor (List.replicate 12 0x11) (Buffer.str "258E") 1 9 (by decide) (by decide)⟩

end InPlace
end Websocket
end Fsw
