import Mathlib.Data.List.Induction
import Fsw.Http2.Lemmas.Calls

namespace Fsw
namespace Http2

open Websocket (ntohl ntohs ntohl_htonl ntohs_htons)

abbrev Entry := BitVec 16 × BitVec 32

variable {lib : Nghttp2} {client : Client lib} {entries : List Entry} {entry : Entry}
  {id : BitVec 16} {n : Nat}

-- The most significant byte comes first.
def entryOf (bs : Bytes) : Entry :=
  (BitVec.ofNat 16 (Bytes.loadLE (bs.take 2).reverse),
    BitVec.ofNat 32 (Bytes.loadLE ((bs.drop 2).take 4).reverse))

def entriesOf : Nat → Bytes → List Entry
  | 0, _ => []
  | n + 1, bs => entryOf bs :: entriesOf n (bs.drop 6)

def lastOf (id : BitVec 16) (entries : List Entry) : Option (BitVec 32) :=
  (entries.reverse.find? fun entry => entry.1 = id).map fun entry => entry.2

def Settings.updated (settings : Settings) (entries : List Entry) : Settings where
  headerTableSize := (lastOf 0x1 entries).getD settings.headerTableSize
  windowSize := (lastOf 0x4 entries).getD settings.windowSize
  maxConcurrentStreams := (lastOf 0x3 entries).getD settings.maxConcurrentStreams
  maxFrameSize := (lastOf 0x5 entries).getD settings.maxFrameSize
  maxHeaderListSize := (lastOf 0x6 entries).getD settings.maxHeaderListSize

def Settings.update (settings : Settings) (entry : Entry) : Settings :=
  if entry.1 = 0x1 then
    { settings with headerTableSize := entry.2 }
  else if entry.1 = 0x3 then
    { settings with maxConcurrentStreams := entry.2 }
  else if entry.1 = 0x4 then
    { settings with windowSize := entry.2 }
  else if entry.1 = 0x5 then
    { settings with maxFrameSize := entry.2 }
  else if entry.1 = 0x6 then
    { settings with maxHeaderListSize := entry.2 }
  else
    settings

theorem lastOf_concat
    : lastOf id (entries ++ [entry])
        = if entry.1 = id then some entry.2 else lastOf id entries := by
  unfold lastOf
  rw [List.reverse_append, List.reverse_singleton, List.singleton_append, List.find?_cons]
  by_cases h : entry.1 = id
  . simp [h]
  . simp [h]

theorem Settings.updated_concat {settings : Settings}
    : settings.updated (entries ++ [entry]) = (settings.updated entries).update entry := by
  by_cases h1 : entry.1 = 0x1
  . simp [updated, update, lastOf_concat, h1]
  . by_cases h3 : entry.1 = 0x3
    . simp [updated, update, lastOf_concat, h3]
    . by_cases h4 : entry.1 = 0x4
      . simp [updated, update, lastOf_concat, h4]
      . by_cases h5 : entry.1 = 0x5
        . simp [updated, update, lastOf_concat, h5]
        . by_cases h6 : entry.1 = 0x6
          . simp [updated, update, lastOf_concat, h6]
          . simp only [updated, update, lastOf_concat, h1, h3, h4, h5, h6, ↓reduceIte]

theorem Settings.foldl_update {settings : Settings}
    : entries.foldl update settings = settings.updated entries := by
  induction entries using List.reverseRecOn with
  | nil => rfl
  | append_singleton entries entry ih =>
    rw [List.foldl_append, ih, updated_concat]
    rfl

theorem entryOf_ntoh (bs : Bytes) (h : bs.length = 6)
    : (ntohs (BitVec.ofNat 16 (Bytes.loadLE (bs.take 2))),
        ntohl (BitVec.ofNat 32 (Bytes.loadLE (bs.drop 2))))
        = entryOf bs := by
  have hid : Bytes.loadLE (bs.take 2) < 2 ^ 16 := by
    have := Bytes.loadLE_lt (bs.take 2)
    rw [List.length_take, h] at this
    exact this
  have hvalue : Bytes.loadLE (bs.drop 2) < 2 ^ 32 := by
    have := Bytes.loadLE_lt (bs.drop 2)
    rw [List.length_drop, h] at this
    exact this
  have htake : (bs.drop 2).take 4 = bs.drop 2 := by
    apply List.take_of_length_le
    rw [List.length_drop, h]
  have hswap := Bytes.swapLE_loadLE (bs.take 2)
  have hswap' := Bytes.swapLE_loadLE (bs.drop 2)
  rw [List.length_take, h] at hswap
  rw [List.length_drop, h] at hswap'
  rw [entryOf, htake, ntohs, ntohl, BitVec.toNat_ofNat, BitVec.toNat_ofNat, Nat.mod_eq_of_lt hid,
    Nat.mod_eq_of_lt hvalue, ← hswap, ← hswap']
  rfl

theorem entryOf_append {bs : Bytes} (rest : Bytes) (h : bs.length = 6)
    : entryOf (bs ++ rest) = entryOf bs := by
  unfold entryOf
  rw [List.take_append_of_le_length (by omega), List.drop_append_of_le_length (by omega),
    List.take_append_of_le_length (by rw [List.length_drop]; omega)]

theorem entryOf_take {bs : Bytes} (h : 6 ≤ bs.length) : entryOf (bs.take 6) = entryOf bs := by
  have hlength : (bs.take 6).length = 6 := by
    rw [List.length_take]
    omega
  have happend := entryOf_append (bs.drop 6) hlength
  rw [List.take_append_drop] at happend
  exact happend.symm

theorem entriesOf_append {bs rest : Bytes} (h : 6 * n ≤ bs.length)
    : entriesOf n (bs ++ rest) = entriesOf n bs := by
  induction n generalizing bs with
  | zero => rfl
  | succ n ih =>
    have hentry : entryOf (bs ++ rest) = entryOf bs := by
      have hle : 6 ≤ (bs ++ rest).length := by
        rw [List.length_append]
        omega
      rw [← entryOf_take hle, List.take_append_of_le_length (by omega), entryOf_take (by omega)]
    rw [entriesOf, entriesOf, hentry, List.drop_append_of_le_length (by omega), ih]
    rw [List.length_drop]
    omega

theorem entriesOf_succ {bs : Bytes}
    : entriesOf (n + 1) bs = entriesOf n bs ++ [entryOf (bs.drop (6 * n))] := by
  induction n generalizing bs with
  | zero => rfl
  | succ n ih =>
    rw [entriesOf, ih, entriesOf, List.drop_drop, List.cons_append]
    congr 5
    omega

namespace Client

theorem length_setting {value : BitVec 32} : (setting id value).length = 6 := by
  rw [setting, List.length_append, Bytes.length_storeLE, Bytes.length_storeLE]

theorem entryOf_setting {value : BitVec 32} : entryOf (setting id value) = (id, value) := by
  rw [← entryOf_ntoh _ length_setting, setting, List.take_left' Bytes.length_storeLE,
    List.drop_left' Bytes.length_storeLE,
    Websocket.Frame.loadLE_storeLE_toNat rfl, Websocket.Frame.loadLE_storeLE_toNat rfl,
    ntohs_htons, ntohl_htonl]

theorem entriesOf_setting {value : BitVec 32} {bs : Bytes}
    : entriesOf (n + 1) (setting id value ++ bs) = (id, value) :: entriesOf n bs := by
  rw [entriesOf, entryOf_append _ length_setting, entryOf_setting, List.drop_left' length_setting]

theorem entriesOf_buildSettingFrame (sender : Client lib)
    : entriesOf 3 sender.buildSettingFrame.1.payload
        = [(0x1, sender.localSettings.headerTableSize),
          (0x3, sender.localSettings.maxConcurrentStreams),
          (0x4, sender.localSettings.windowSize)] := by
  have hpayload : sender.buildSettingFrame.1.payload
    = setting 0x1 sender.localSettings.headerTableSize
      ++ (setting 0x3 sender.localSettings.maxConcurrentStreams
      ++ (setting 0x4 sender.localSettings.windowSize ++ [])) := by
    rw [List.append_nil, ← List.append_assoc]
    rfl
  rw [hpayload, entriesOf_setting, entriesOf_setting, entriesOf_setting]
  rfl

section Parse

variable (hlib : ∀ deflater size, (lib.deflateChangeTableSize deflater size).isSome)

include hlib

theorem parseSetting_update (client : Client lib) (entry : Entry)
    : ∃ deflater, client.parseSetting entry.1 entry.2
        = ({ client with
          remoteSettings := client.remoteSettings.update entry, deflater := deflater }, true) := by
  unfold parseSetting Settings.update
  split
  . split
    . rcases Option.isSome_iff_exists.mp (hlib client.deflater entry.2) with ⟨deflater, hdeflater⟩
      dsimp only
      rw [hdeflater]
      exact ⟨deflater, rfl⟩
    . next hsame =>
      rw [ne_eq, not_not] at hsame
      rw [hsame]
      exact ⟨client.deflater, rfl⟩
  . split
    . exact ⟨client.deflater, rfl⟩
    . split
      . exact ⟨client.deflater, rfl⟩
      . split
        . exact ⟨client.deflater, rfl⟩
        . split
          . exact ⟨client.deflater, rfl⟩
          . exact ⟨client.deflater, rfl⟩

theorem parseSettings_update (client : Client lib) (value : BitVec 32)
    {buf : Bytes} (h : 6 * n ≤ buf.length)
    : ∃ deflater value', parseSettings client buf value n
        = .ok ({ client with
            remoteSettings := (entriesOf n buf).foldl Settings.update client.remoteSettings
            deflater := deflater }, some value') := by
  induction n generalizing client buf value with
  | zero => exact ⟨client.deflater, value, rfl⟩
  | succ n ih =>
    have hread : buf.read? 0 6 = some (buf.take 6) := Bytes.read?_zero (by omega)
    have hentry := entryOf_ntoh (buf.take 6) (by rw [List.length_take]; omega)
    rw [entryOf_take (by omega)] at hentry
    rcases parseSetting_update hlib client (entryOf buf) with ⟨deflater, hsetting⟩
    rw [← hentry] at hsetting
    have hle : 6 * n ≤ (buf.drop 6).length := by
      rw [List.length_drop]
      omega
    unfold parseSettings
    rw [hread]
    dsimp only at hsetting ⊢
    rw [hsetting, hentry]
    exact ih _ _ hle

theorem parseSettingFrame_updated (client : Client lib) (frame : Frame) (n : Nat)
    (h : 6 * ((frame.payloadLength + 5) / 6) ≤ frame.payload.length)
    : ∃ client' ret, client.parseSettingFrame frame n = .ok (client', ret)
        ∧ client'.remoteSettings
          = client.remoteSettings.updated
            (entriesOf ((frame.payloadLength + 5) / 6) frame.payload) := by
  rcases parseSettings_update hlib client 0 h with ⟨deflater, value, hsettings⟩
  rw [Settings.foldl_update] at hsettings
  unfold parseSettingFrame
  rw [hsettings]
  simp only [bind, Except.bind]
  split
  . next heq =>
    injection heq with hclient _
    rw [← hclient]
    exact ⟨_, _, rfl, rfl⟩
  . next heq =>
    injection heq with hclient _
    rw [← hclient]
    exact ⟨_, _, rfl, rfl⟩

theorem parseSettingFrame_entries (client : Client lib) (frame : Frame)
    {k : Nat} {p rest : Bytes} (n : Nat) (hp : p.length = 6 * k)
    (hpayload : frame.payload = p ++ rest) (hlength : frame.payloadLength = p.length)
    : ∃ client' ret, client.parseSettingFrame frame n = .ok (client', ret)
        ∧ client'.remoteSettings = client.remoteSettings.updated (entriesOf k p) := by
  have hk : (frame.payloadLength + 5) / 6 = k := by omega
  have hle : 6 * ((frame.payloadLength + 5) / 6) ≤ frame.payload.length := by
    rw [hk, hpayload, List.length_append]
    omega
  rcases parseSettingFrame_updated hlib client frame n hle with ⟨client', ret, hparse, hsettings⟩
  rw [hk, hpayload, entriesOf_append (by omega)] at hsettings
  exact ⟨client', ret, hparse, hsettings⟩

/--
The first part is about any payload of whole entries, the second about the one that a client sends.
-/
theorem parseSettingFrame_lastWins (client : Client lib) (n : Nat)
    : (∀ (frame : Frame) k p rest, p.length = 6 * k → frame.payload = p ++ rest
        → frame.payloadLength = p.length →
        ∃ client' ret, client.parseSettingFrame frame n = .ok (client', ret)
          ∧ client'.remoteSettings = client.remoteSettings.updated (entriesOf k p))
      ∧ ∀ {lib' : Nghttp2} (sender : Client lib') (frame : Frame) rest,
        frame.payload = sender.buildSettingFrame.1.payload ++ rest →
        frame.payloadLength = sender.buildSettingFrame.1.payloadLength →
        ∃ client' ret, client.parseSettingFrame frame n = .ok (client', ret)
          ∧ client'.remoteSettings = { client.remoteSettings with
              headerTableSize := sender.localSettings.headerTableSize
              maxConcurrentStreams := sender.localSettings.maxConcurrentStreams
              windowSize := sender.localSettings.windowSize } := by
  constructor
  . intro frame k p rest hp hpayload hlength
    exact parseSettingFrame_entries hlib client frame n hp hpayload hlength
  . intro lib' sender frame rest hpayload hlength
    have hp : sender.buildSettingFrame.1.payload.length = 6 * 3 := rfl
    rcases parseSettingFrame_entries hlib client frame n hp hpayload hlength with
      ⟨client', ret, hparse, hsettings⟩
    rw [entriesOf_buildSettingFrame] at hsettings
    exact ⟨client', ret, hparse, hsettings⟩

end Parse

theorem literalLib_deflates
    : ∀ deflater size, (literalLib.deflateChangeTableSize deflater size).isSome :=
  fun _ _ => rfl

-- Two values for the same setting and one for a setting that does not exist, and the settings of
-- the client itself
theorem parseSettingFrame_lastWins_twice
    : (∃ client' ret,
        literalStart.parseSettingFrame ⟨[0, 3, 0, 0, 0, 1, 0, 9, 0, 0, 0, 7, 0, 3, 0, 0, 1, 2], 18,
            FrameType.SETTINGS, 0, 0, none⟩ 9 = .ok (client', ret)
          ∧ client'.remoteSettings = { Settings.default with maxConcurrentStreams := 258 })
        ∧ ∃ client' ret, literalStart.parseSettingFrame literalStart.buildSettingFrame.1 9
          = .ok (client', ret)
          ∧ client'.remoteSettings = Settings.default := by
  rcases parseSettingFrame_lastWins literalLib_deflates literalStart 9 with ⟨hentries, hsender⟩
  exact ⟨hentries ⟨[0, 3, 0, 0, 0, 1, 0, 9, 0, 0, 0, 7, 0, 3, 0, 0, 1, 2], 18,
    FrameType.SETTINGS, 0, 0, none⟩ 3
    [0, 3, 0, 0, 0, 1, 0, 9, 0, 0, 0, 7, 0, 3, 0, 0, 1, 2] [] rfl rfl rfl,
    hsender literalStart literalStart.buildSettingFrame.1 [] rfl rfl⟩

end Client
end Http2
end Fsw
