import Fsw.Http.Lemmas.Reply
import Fsw.Lib.Cuts

namespace Fsw
namespace Http

namespace Server

variable {server : Server} {ctx : Ctx} {rs : List Read} {k : Nat} {answer : Answer}

theorem serve_answer (hctx : ctx.Cleared) (hrs : ∀ r ∈ rs, r.InRange)
    (h : (server.serve ctx rs).answers[k]? = some answer)
    : ∃ r path, rs[k]? = some r ∧ r.urls.getLast? = some path ∧ answer.ctx.request.path = some path
        ∧ answer.outputs = (server.dispatch answer.ctx (cStr path)).outputs
        ∧ answer.ctx.writeBuf.size = WRITE_BUF_MAX_SIZE := by
  induction rs generalizing ctx k with
  | nil => contradiction
  | cons r rs ih =>
    have hurl : (ctx.read r).request.path = r.urls.getLast? := by
      rw [Ctx.read_path (hrs r List.mem_cons_self), hctx.path]
      cases r.urls.getLast? <;> rfl
    cases hpath : (ctx.read r).request.path with
    | none =>
      rw [serve_of_path_eq_none hpath] at h
      contradiction
    | some path =>
      rcases serve_cons server rs hpath with ⟨rest, hanswers, hrest⟩
      rw [hanswers] at h
      cases k with
      | zero =>
        injection h with h
        subst h
        refine ⟨r, path, rfl, ?_, hpath, rfl, ?_⟩
        . rw [← hurl, hpath]
        . rw [Ctx.read_response.2, hctx.size]
      | succ k =>
        rw [List.getElem?_cons_succ] at h
        rcases hrest with ⟨c, hresult, hserve⟩ | hnil
        . rw [hserve] at h
          exact ih (hctx.dispatch hresult).1 (fun r hr => hrs r (List.mem_cons_of_mem _ hr)) h
        . rw [hnil] at h
          contradiction

theorem serve_replies (hctx : ctx.Cleared)
    (hrs : ∀ r ∈ rs, r.InRange ∧ r.urls ≠ []
      ∧ ∃ parser, r.parsers.getLast? = some parser ∧ parser.keepAlive)
    (hreplies : ∀ answer ∈ (server.serve ctx rs).answers, ∀ path ∈ answer.ctx.request.path,
      server.Replies answer.ctx (cStr path))
    : (server.serve ctx rs).answers.length = rs.length ∧ (server.serve ctx rs).trap = none := by
  induction rs generalizing ctx with
  | nil => exact ⟨rfl, rfl⟩
  | cons r rs ih =>
    rw [List.forall_mem_cons] at hrs
    rcases hrs with ⟨⟨hrange, hurls, parser, hparser, hkeep⟩, hrs⟩
    have halive : (ctx.read r).keepAlive = true := by
      rw [Ctx.read_keepAlive, hparser]
      exact hkeep
    cases hurl : r.urls.getLast? with
    | none =>
      rw [List.getLast?_eq_none_iff] at hurl
      contradiction
    | some url =>
      have hpath : (ctx.read r).request.path = some url := by
        rw [Ctx.read_path hrange, hurl]
        rfl
      have hsize : (ctx.read r).writeBuf.size = WRITE_BUF_MAX_SIZE := by
        rw [Ctx.read_response.2, hctx.size]
      rcases serve_cons server rs hpath with ⟨rest, hanswers, _⟩
      rw [hanswers, List.forall_mem_cons] at hreplies
      rcases (hreplies.1 url hpath).result hsize with ⟨c, hresult⟩
      have hserve := serve_of_result rs hpath hresult ((hctx.dispatch hresult).2.trans halive)
      rw [hserve] at hanswers ⊢
      injection hanswers with _ hanswers
      rw [← hanswers] at hreplies
      rcases ih (hctx.dispatch hresult).1 hrs hreplies.2 with ⟨hlength, htrap⟩
      exact ⟨congrArg (· + 1) hlength, htrap⟩

end Server

/--
Where a request lies in the stream. `urlEnd` is the place of what delimits the url and `headersEnd`
the place of the last byte of the headers.
-/
structure Extent where
  start : Nat
  urlStart : Nat
  urlEnd : Nat
  headersEnd : Nat
  stop : Nat
  start_lt : start < urlStart
  urlStart_lt : urlStart < urlEnd
  urlEnd_lt : urlEnd < headersEnd
  headersEnd_lt : headersEnd < stop

theorem Extent.urlStart_lt_headersEnd (e : Extent) : e.urlStart < e.headersEnd := by
  apply Nat.lt_trans e.urlStart_lt e.urlEnd_lt

theorem Extent.urlEnd_lt_stop (e : Extent) : e.urlEnd < e.stop := by
  apply Nat.lt_trans e.urlEnd_lt e.headersEnd_lt

theorem Extent.urlStart_lt_stop (e : Extent) : e.urlStart < e.stop := by
  apply Nat.lt_trans e.urlStart_lt e.urlEnd_lt_stop

-- The data of one `recv`, with the number of the request next to each callback
structure Segment where
  data : Bytes
  callbacks : List (Nat × Callback)

namespace Segment

def read (seg : Segment) : Read where
  data := seg.data
  callbacks := seg.callbacks.map Prod.snd

def urls (seg : Segment) : List (Nat × Bytes) :=
  seg.callbacks.filterMap fun e => (e.2.url? seg.data).map (e.1, ·)

def parsers (seg : Segment) : List (Nat × Parser) :=
  seg.callbacks.filterMap fun e => e.2.parser?.map (e.1, ·)

theorem filterMap_snd {γ : Type} {g : Callback → Option γ} {l : List (Nat × Callback)}
    : (l.map Prod.snd).filterMap g = (l.filterMap fun e => (g e.2).map (e.1, ·)).map Prod.snd := by
  rw [List.filterMap_map, List.map_filterMap]
  congr 1
  funext e
  simp [Function.comp_def]

theorem read_urls {seg : Segment} : seg.read.urls = seg.urls.map Prod.snd := by
  exact filterMap_snd

theorem read_parsers {seg : Segment} : seg.read.parsers = seg.parsers.map Prod.snd := by
  exact filterMap_snd

end Segment

def cutAt (segs : List Segment) (k : Nat) : Nat :=
  cut (segs.map (·.data.length)) k

/--
A stream of requests that are all keep-alive, in pieces, with what `http_parser` reports for each of
them: a part of a url if there is one or if it ends right before the piece, and that the headers or
a request are complete with the last byte of them.
-/
structure Segmentation where
  extents : List Extent
  segments : List Segment
  start_zero : ∀ e ∈ extents.head?, e.start = 0
  contiguous : extents.IsChain fun e e' => e'.start = e.stop
  inRange : ∀ seg ∈ segments, seg.read.InRange
  nonempty : ∀ seg ∈ segments, 0 < seg.data.length
  total : cutAt segments segments.length = (extents.getLast?.map (·.stop)).getD 0
  known : ∀ seg ∈ segments, ∀ a ∈ seg.urls, a.1 < extents.length
  ordered : ∀ seg ∈ segments, (seg.urls.map Prod.fst).Pairwise (· ≤ ·)
  url : ∀ (k : Fin segments.length) (i : Fin extents.length),
    i.val ∈ segments[k].urls.map Prod.fst
      ↔ extents[i].urlStart < cutAt segments (k + 1) ∧ cutAt segments k ≤ extents[i].urlEnd
  headersComplete : ∀ (k : Fin segments.length) (i : Fin extents.length),
    i.val ∈ segments[k].parsers.map Prod.fst
      ↔ cutAt segments k ≤ extents[i].headersEnd ∧ extents[i].headersEnd < cutAt segments (k + 1)
  keepAlive : ∀ seg ∈ segments, ∀ a ∈ seg.parsers, a.2.keepAlive
  messageComplete : ∀ (k : Fin segments.length) (i : Fin extents.length),
    (i.val, .messageComplete) ∈ segments[k].callbacks
      ↔ cutAt segments k < extents[i].stop ∧ extents[i].stop ≤ cutAt segments (k + 1)

namespace Segmentation

def reads (s : Segmentation) : List Read :=
  s.segments.map (·.read)

def cut (s : Segmentation) (k : Nat) : Nat :=
  cutAt s.segments k

/--
The `k`th answer is to the path of the `k`th request, all of that request has been parsed by then,
and all of the file, of the responses of the handler or of the 404 is sent.
-/
def Answers (s : Segmentation) (server : Server) (k : Nat) (answer : Answer) : Prop :=
  ∃ seg : Segment, ∃ url, s.segments[k]? = some seg ∧ seg.urls.getLast? = some (k, url)
    ∧ answer.ctx.request.path = some url
    ∧ server.reply answer.ctx (cStr url) = some answer.outputs
    ∧ ∃ j, ∃ seg' : Segment, j ≤ k ∧ s.segments[j]? = some seg'
    ∧ (k, .messageComplete) ∈ seg'.callbacks

structure OneEach (s : Segmentation) (server : Server) (u : Uninit) : Prop where
  length : (server.onAccept u s.reads).answers.length = s.extents.length
  answers : ∀ k answer, (server.onAccept u s.reads).answers[k]? = some answer
    → s.Answers server k answer
  trap : (server.onAccept u s.reads).trap = none

/--
There is one piece for each request, it starts not after its url and ends not before the request.
-/
structure Aligned (s : Segmentation) : Prop where
  length : s.segments.length = s.extents.length
  urlStart : ∀ k e, s.extents[k]? = some e → s.cut k ≤ e.urlStart
  stop : ∀ k e, s.extents[k]? = some e → e.stop ≤ s.cut (k + 1)

section Cuts

variable {s : Segmentation} {i j k : Nat} {seg : Segment} {e : Extent}

theorem of_fin {P : Nat → Segment → Nat → Extent → Prop} (hseg : s.segments[k]? = some seg)
    (he : s.extents[i]? = some e)
    (h : ∀ (k : Fin s.segments.length) (i : Fin s.extents.length), P k s.segments[k] i s.extents[i])
    : P k seg i e := by
  rcases List.getElem?_eq_some_iff.mp hseg with ⟨hk, hseg⟩
  rcases List.getElem?_eq_some_iff.mp he with ⟨hi, he⟩
  subst hseg he
  exact h ⟨k, hk⟩ ⟨i, hi⟩

theorem url_iff (hseg : s.segments[k]? = some seg) (he : s.extents[i]? = some e)
    : i ∈ seg.urls.map Prod.fst ↔ e.urlStart < s.cut (k + 1) ∧ s.cut k ≤ e.urlEnd := by
  apply of_fin hseg he
  apply s.url

theorem headersComplete_iff (hseg : s.segments[k]? = some seg) (he : s.extents[i]? = some e)
    : i ∈ seg.parsers.map Prod.fst ↔ s.cut k ≤ e.headersEnd ∧ e.headersEnd < s.cut (k + 1) := by
  apply of_fin hseg he
  apply s.headersComplete

theorem messageComplete_iff (hseg : s.segments[k]? = some seg) (he : s.extents[i]? = some e)
    : (i, .messageComplete) ∈ seg.callbacks ↔ s.cut k < e.stop ∧ e.stop ≤ s.cut (k + 1) := by
  apply of_fin hseg he
  apply s.messageComplete

theorem cut_mono (h : j ≤ k) : s.cut j ≤ s.cut k := by
  apply Fsw.cut_mono h

theorem cut_lt (h : j < k) (hk : k ≤ s.segments.length) : s.cut j < s.cut k := by
  apply Fsw.cut_lt _ h
  . rw [List.length_map]
    exact hk
  . intro n hn
    rcases List.mem_map.mp hn with ⟨seg, hseg, hlength⟩
    rw [← hlength]
    apply s.nonempty seg hseg

end Cuts

theorem le_of_getLast? {l : List Nat} {a b : Nat} (hl : l.Pairwise (· ≤ ·)) (ha : a ∈ l)
    (hb : l.getLast? = some b)
    : a ≤ b := by
  rcases List.getLast?_eq_some_iff.mp hb with ⟨l', heq⟩
  subst heq
  rcases List.mem_append.mp ha with hmem | hmem
  . exact (List.pairwise_append.mp hl).2.2 a hmem b (by simp)
  . apply Nat.le_of_eq (List.mem_singleton.mp hmem)

section OneEach

variable {s : Segmentation} {server : Server} {u : Uninit}

theorem reads_inRange : ∀ r ∈ s.reads, r.InRange := by
  intro r hr
  rcases List.mem_map.mp hr with ⟨seg, hseg, heq⟩
  rw [← heq]
  apply s.inRange seg hseg

theorem OneEach.lastUrl (h : s.OneEach server u) {k : Nat} (hk : k < s.extents.length)
    : ∃ seg : Segment, ∃ url, s.segments[k]? = some seg ∧ seg.urls.getLast? = some (k, url) := by
  rw [← h.length] at hk
  rcases h.answers k _ (List.getElem?_eq_getElem hk) with ⟨seg, url, hseg, hlast, _⟩
  exact ⟨seg, url, hseg, hlast⟩

theorem OneEach.stop_le (h : s.OneEach server u) {k : Nat} {e : Extent}
    (he : s.extents[k]? = some e)
    : e.stop ≤ s.cut (k + 1) := by
  have hk := (List.getElem?_eq_some_iff.mp he).1
  rw [← h.length] at hk
  rcases h.answers k _ (List.getElem?_eq_getElem hk) with
    ⟨_, _, _, _, _, _, j, seg', hj, hseg', hcomplete⟩
  have hcut := ((messageComplete_iff hseg' he).mp hcomplete).2
  exact Nat.le_trans hcut (cut_mono (by omega))

/--
If the url started in an earlier piece then the answer to that piece would be to this request, or to
one after it.
-/
theorem OneEach.cut_le_urlStart (h : s.OneEach server u) {k : Nat} {e : Extent}
    (he : s.extents[k]? = some e)
    : s.cut k ≤ e.urlStart := by
  by_contra hlt
  have hk := (List.getElem?_eq_some_iff.mp he).1
  rcases exists_cut (Nat.lt_of_not_le hlt) with ⟨j, hj, hle, hcut⟩
  rcases h.lastUrl (Nat.lt_trans hj hk) with ⟨seg, url, hseg, hlast⟩
  have hurlEnd : s.cut j ≤ e.urlEnd := Nat.le_trans hle (Nat.le_of_lt e.urlStart_lt)
  have hmem := (url_iff hseg he).mpr ⟨hcut, hurlEnd⟩
  have hmap : (seg.urls.map Prod.fst).getLast? = some j := by
    rw [List.getLast?_map, hlast]
    rfl
  have hle := le_of_getLast? (s.ordered seg (List.mem_of_getElem? hseg)) hmem hmap
  omega

theorem OneEach.aligned (h : s.OneEach server u) : s.Aligned := by
  refine ⟨?_, fun k e he => h.cut_le_urlStart he, fun k e he => h.stop_le he⟩
  have htotal : s.cut s.segments.length = _ := s.total
  apply Nat.le_antisymm
  . by_contra hlt
    have hcut : s.cut s.extents.length < s.cut s.segments.length :=
      cut_lt (by omega) (Nat.le_refl _)
    rw [htotal] at hcut
    cases hlast : s.extents.getLast? with
    | none =>
      rw [hlast] at hcut
      apply absurd hcut (Nat.not_lt_zero _)
    | some e =>
      have hne : 0 < s.extents.length := by
        cases hextents : s.extents with
        | nil =>
          rw [hextents] at hlast
          contradiction
        | cons e' es => simp
      rw [List.getLast?_eq_getElem?] at hlast
      have hstop := h.stop_le hlast
      rw [Nat.sub_add_cancel hne] at hstop
      rw [List.getLast?_eq_getElem?, hlast] at hcut
      simp only [Option.map_some, Option.getD_some] at hcut
      omega
  . cases hn : s.extents.length with
    | zero => apply Nat.zero_le _
    | succ n =>
      rcases h.lastUrl (k := n) (by omega) with ⟨seg, _, hseg, _⟩
      apply (List.getElem?_eq_some_iff.mp hseg).1

theorem Aligned.extent (h : s.Aligned) {k : Nat} {seg : Segment} (hseg : s.segments[k]? = some seg)
    : ∃ e, s.extents[k]? = some e := by
  have hk := (List.getElem?_eq_some_iff.mp hseg).1
  rw [h.length] at hk
  exact ⟨_, List.getElem?_eq_getElem hk⟩

theorem Aligned.lastUrl (h : s.Aligned) {k : Nat} {seg : Segment} (hseg : s.segments[k]? = some seg)
    : ∃ url, seg.urls.getLast? = some (k, url) := by
  rcases h.extent hseg with ⟨e, he⟩
  have hstart := h.urlStart k e he
  have hstop := h.stop k e he
  have hlt : e.urlStart < s.cut (k + 1) := Nat.lt_of_lt_of_le e.urlStart_lt_stop hstop
  have hmem' := (url_iff hseg he).mpr ⟨hlt, Nat.le_trans hstart (Nat.le_of_lt e.urlStart_lt)⟩
  cases hlast : seg.urls.getLast? with
  | none =>
    rw [List.getLast?_eq_none_iff] at hlast
    rw [hlast] at hmem'
    contradiction
  | some a =>
    rcases a with ⟨i, url⟩
    have hmem := List.mem_of_getLast? hlast
    have hi : i < s.extents.length := s.known seg (List.mem_of_getElem? hseg) (i, url) hmem
    have hei := List.getElem?_eq_getElem hi
    rcases (url_iff hseg hei).mp (List.mem_map_of_mem hmem) with ⟨hstart', hend'⟩
    have hieq : i = k := by
      rcases Nat.lt_trichotomy i k with hik | hik | hik
      . have h1 := h.stop i _ hei
        have h2 : s.cut (i + 1) ≤ s.cut k := cut_mono hik
        have h3 := s.extents[i].urlEnd_lt_stop
        omega
      . exact hik
      . have h1 := h.urlStart i _ hei
        have h2 : s.cut (k + 1) ≤ s.cut i := cut_mono hik
        omega
    exact ⟨url, by rw [hieq]⟩

theorem Aligned.parser (h : s.Aligned) {k : Nat} {seg : Segment} (hseg : s.segments[k]? = some seg)
    : ∃ parser, seg.read.parsers.getLast? = some parser ∧ parser.keepAlive := by
  rcases h.extent hseg with ⟨e, he⟩
  have hheaders : s.cut k ≤ e.headersEnd ∧ e.headersEnd < s.cut (k + 1) := by
    have := h.urlStart k e he
    have := h.stop k e he
    have := e.urlStart_lt_headersEnd
    have := e.headersEnd_lt
    omega
  have hmem := (headersComplete_iff hseg he).mpr hheaders
  rw [Segment.read_parsers, List.getLast?_map]
  cases hlast : seg.parsers.getLast? with
  | none =>
    rw [List.getLast?_eq_none_iff] at hlast
    rw [hlast] at hmem
    contradiction
  | some a =>
    exact ⟨a.2, rfl, s.keepAlive seg (List.mem_of_getElem? hseg) a (List.mem_of_getLast? hlast)⟩

theorem Aligned.messageComplete (h : s.Aligned) {k : Nat} {seg : Segment}
    (hseg : s.segments[k]? = some seg)
    : (k, .messageComplete) ∈ seg.callbacks := by
  rcases h.extent hseg with ⟨e, he⟩
  apply (messageComplete_iff hseg he).mpr
  have := h.urlStart k e he
  have := h.stop k e he
  have := e.urlStart_lt_stop
  omega

theorem OneEach.replies (h : s.OneEach server u) {answer : Answer}
    (hanswer : answer ∈ (server.onAccept u s.reads).answers)
    : ∀ path ∈ answer.ctx.request.path, server.Replies answer.ctx (cStr path) := by
  intro path hpath
  rcases List.getElem?_of_mem hanswer with ⟨k, hk⟩
  rcases h.answers k answer hk with ⟨_, url, _, _, hurl, hreply, _⟩
  rcases Server.serve_answer Ctx.cleared_new reads_inRange hk with
    ⟨_, path', _, _, hpath', houtputs, hsize⟩
  rw [hpath'] at hpath hurl
  injection hpath with hpath
  injection hurl with hurl
  rw [← hpath, replies_iff hsize, ← houtputs, hurl]
  exact hreply

theorem Aligned.served (h : s.Aligned)
    (hreplies : ∀ answer ∈ (server.onAccept u s.reads).answers, ∀ path ∈ answer.ctx.request.path,
      server.Replies answer.ctx (cStr path))
    : (server.onAccept u s.reads).answers.length = s.reads.length
      ∧ (server.onAccept u s.reads).trap = none := by
  apply Server.serve_replies Ctx.cleared_new _ hreplies
  intro r hr
  refine ⟨reads_inRange r hr, ?_⟩
  rcases List.mem_map.mp hr with ⟨seg, hseg, heq⟩
  subst heq
  rcases List.getElem?_of_mem hseg with ⟨k, hk⟩
  rcases h.lastUrl hk with ⟨url, hlast⟩
  refine ⟨?_, h.parser hk⟩
  intro hnil
  rw [Segment.read_urls, List.map_eq_nil_iff] at hnil
  rw [hnil] at hlast
  contradiction

theorem Aligned.answers (h : s.Aligned) {k : Nat} {answer : Answer}
    (hanswer : (server.onAccept u s.reads).answers[k]? = some answer)
    (hreplies : ∀ path ∈ answer.ctx.request.path, server.Replies answer.ctx (cStr path))
    : s.Answers server k answer := by
  rcases Server.serve_answer Ctx.cleared_new reads_inRange hanswer with
    ⟨r, path, hr, hurl, hpath, houtputs, hsize⟩
  unfold reads at hr
  rw [List.getElem?_map, Option.map_eq_some_iff] at hr
  rcases hr with ⟨seg, hseg, heq⟩
  subst heq
  rcases h.lastUrl hseg with ⟨url, hlast⟩
  rw [Segment.read_urls, List.getLast?_map, hlast] at hurl
  injection hurl with hurl
  rw [← hurl] at hpath houtputs
  have hreply := (replies_iff hsize).mp (hreplies _ hpath)
  rw [← houtputs] at hreply
  exact ⟨seg, url, hseg, hlast, hpath, hreply, k, seg, Nat.le_refl k, hseg,
    h.messageComplete hseg⟩

/--
There is exactly one answer for each request if and only if the pieces are aligned with the
requests, and every reply is neither a refusal nor too large.
-/
theorem oneEach_iff (s : Segmentation) (server : Server) (u : Uninit)
    : s.OneEach server u ↔ s.Aligned
        ∧ ∀ answer ∈ (server.onAccept u s.reads).answers, ∀ path ∈ answer.ctx.request.path,
            server.Replies answer.ctx (cStr path) := by
  constructor
  . intro h
    exact ⟨h.aligned, fun answer hanswer => h.replies hanswer⟩
  . rintro ⟨haligned, hreplies⟩
    have hserved := haligned.served hreplies
    have hlength := hserved.1
    unfold reads at hlength
    rw [List.length_map, haligned.length] at hlength
    refine ⟨hlength, ?_, hserved.2⟩
    intro k answer hanswer
    exact haligned.answers hanswer (hreplies answer (List.mem_of_getElem? hanswer))

end OneEach

end Segmentation

open Buffer (str)

def splitExtent : Extent where
  start := 0
  urlStart := 4
  urlEnd := 5
  headersEnd := 17
  stop := 18
  start_lt := by decide
  urlStart_lt := by decide
  urlEnd_lt := by decide
  headersEnd_lt := by decide

def splitSegments : List Segment :=
  [⟨str "GET / HT", [(0, .messageBegin), (0, .url ⟨4, 1⟩)]⟩,
    ⟨str "TP/1.1\r\n\r\n", [(0, .headersComplete ⟨.get, 1, 1, true⟩), (0, .messageComplete)]⟩]

def splitRequest : Segmentation where
  extents := [splitExtent]
  segments := splitSegments
  start_zero := by decide
  contiguous := by decide
  inRange := by decide
  nonempty := by decide
  total := by decide
  known := by decide
  ordered := by decide
  url := by decide
  headersComplete := by decide
  keepAlive := by decide
  messageComplete := by decide

-- It is answered after the first piece, and after the second there is no path.
theorem splitRequest_not_oneEach
    : (serverA.onAccept { Uninit.zero with keepAlive := true } splitRequest.reads).answers.length
        = 1
      ∧ (serverA.onAccept { Uninit.zero with keepAlive := true } splitRequest.reads).trap
        = some .nullDeref
      ∧ ¬splitRequest.OneEach serverA { Uninit.zero with keepAlive := true } := by
  refine ⟨by decide +kernel, by decide +kernel, ?_⟩
  intro h
  have := h.aligned.length
  contradiction

end Http
end Fsw
