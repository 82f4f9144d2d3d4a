import Fsw.Http2.Lemmas.Literal

namespace Fsw
namespace Http2

open Http (tolower)

def Request.fields (req : Request) : List (Bytes × Bytes) :=
  [(Buffer.str ":method", req.method), (Buffer.str ":path", req.path),
    (Buffer.str ":scheme", Buffer.str "http"),
    (Buffer.str ":authority", Buffer.str "127.0.0.1")] ++ req.header.map fun nv =>
      (nv.1.map tolower, nv.2)

namespace Headers

variable {headers : Headers} {l : List (Bytes × Bytes)}

theorem add_ok (name value : Bytes) (h : headers.nvs.length < headers.size)
    : ∃ headers', headers.add name value = .ok headers'
        ∧ headers'.nvs = headers.nvs ++ [(name, value)]
        ∧ headers'.size = headers.size := by
  unfold add
  rw [dif_pos h]
  exact ⟨_, rfl, rfl, rfl⟩

theorem foldlM_add_ok (h : headers.nvs.length + l.length ≤ headers.size)
    : ∃ headers', l.foldlM (fun headers nv => headers.add nv.1 nv.2) headers = .ok headers'
        ∧ headers'.nvs = headers.nvs ++ l := by
  induction l generalizing headers with
  | nil => exact ⟨headers, rfl, (List.append_nil _).symm⟩
  | cons nv l ih =>
    rw [List.length_cons] at h
    rcases headers.add_ok nv.1 nv.2 (by omega) with ⟨headers₁, hadd, hnvs, hsize⟩
    have hle : headers₁.nvs.length + l.length ≤ headers₁.size := by
      rw [hnvs, hsize, List.length_append, List.length_singleton]
      omega
    rcases ih hle with ⟨headers₂, hfold, hnvs₂⟩
    refine ⟨headers₂, ?_, ?_⟩
    . rw [List.foldlM_cons, hadd]
      exact hfold
    . rw [hnvs₂, hnvs, List.append_assoc, List.singleton_append]

end Headers

namespace Client

variable {u : Uninit} {s : Bytes}

theorem addHeaders_eq (u : Uninit) (req : Request)
    : addHeaders u req = (headers u req).foldlM (fun headers nv => headers.add nv.1 nv.2)
        (Headers.new (MAX_STATUS_LINE_NUM + req.header.length)) := by
  unfold addHeaders headers
  simp only [List.foldlM_append, List.foldlM_map, List.foldlM_cons, List.foldlM_nil,
    bind_assoc, pure_bind]

theorem addHeaders_ok (u : Uninit) (req : Request)
    : ∃ h, addHeaders u req = .ok h ∧ h.nvs = headers u req := by
  have hle : (Headers.new (MAX_STATUS_LINE_NUM + req.header.length)).nvs.length
    + (headers u req).length
      ≤ (Headers.new (MAX_STATUS_LINE_NUM + req.header.length)).size := by
    change 0 + (headers u req).length ≤ 8 + req.header.length
    rw [headers, List.length_append, List.length_map]
    change 0 + (4 + _) ≤ _
    omega
  rcases Headers.foldlM_add_ok hle with ⟨h, hfold, hnvs⟩
  exact ⟨h, (addHeaders_eq u req).trans hfold, hnvs⟩

theorem length_strl : (strl u s).length = 7 := by
  have hbehind := u.length_behind s
  rw [strl, List.length_take, List.length_append, List.length_cons]
  omega

theorem strl_eq_iff {s' : Bytes} (h : s'.length = s.length)
    : strl u s = s' ↔ s.length = 7 ∧ s' = s := by
  constructor
  . intro heq
    have hlength : s.length = 7 := by
      rw [← h, ← heq, length_strl]
    refine ⟨hlength, ?_⟩
    rw [← heq, strl, ← hlength, List.take_left]
  . rintro ⟨hlength, hs'⟩
    rw [hs', strl, ← hlength, List.take_left]

theorem headers_eq_fields_iff {req : Request}
    : headers u req = req.fields
        ↔ ∀ nv ∈ req.header, nv.1.length = 7 ∧ nv.2.length = 7 ∧ nv.1.map tolower = nv.1 := by
  unfold headers Request.fields
  rw [List.append_cancel_left_eq, List.map_inj_left]
  apply forall₂_congr
  intro nv _
  rw [Prod.mk.injEq, strl_eq_iff (List.length_map _), strl_eq_iff rfl]
  constructor
  . rintro ⟨⟨hname, hlower⟩, hvalue, _⟩
    exact ⟨hname, hvalue, hlower⟩
  . rintro ⟨hname, hvalue, hlower⟩
    exact ⟨⟨hname, hlower⟩, hvalue, rfl⟩

theorem addHeaders_faithful_iff (u : Uninit) (req : Request)
    : ∃ h, addHeaders u req = .ok h ∧ h.nvs = headers u req ∧ h.nvs.length ≤ h.size
        ∧ (h.nvs = req.fields
          ↔ ∀ nv ∈ req.header, nv.1.length = 7 ∧ nv.2.length = 7 ∧ nv.1.map tolower = nv.1) := by
  rcases addHeaders_ok u req with ⟨h, hadd, hnvs⟩
  refine ⟨h, hadd, hnvs, h.length_le, ?_⟩
  rw [hnvs, headers_eq_fields_iff]

def agentRequest : Request :=
  ⟨Buffer.str "GET", Buffer.str "/", none, 0, false, [(Buffer.str "user-agent", Buffer.str "fsw")]⟩

-- The name is cut off, and behind the value there are bytes that are not its own.
theorem addHeaders_not_faithful
    : ∃ h, addHeaders .zero agentRequest = .ok h
        ∧ h.nvs.drop 4 = [(Buffer.str "user-ag", Buffer.str "fsw" ++ [0, 0, 0, 0])]
        ∧ h.nvs ≠ agentRequest.fields := by
  rcases addHeaders_ok .zero agentRequest with ⟨h, hadd, hnvs⟩
  refine ⟨h, hadd, ?_, ?_⟩
  . rw [hnvs]
    rfl
  . rw [hnvs, ne_eq, headers_eq_fields_iff]
    decide

end Client
end Http2
end Fsw
