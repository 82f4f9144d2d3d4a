import Fsw.Http.Impl.Ctx

namespace Fsw
namespace Http

def Callback.slice? : Callback → Option Slice
  | .url s | .headerField s | .headerValue s | .body s => some s
  | _ => none

def Callback.url? (data : Bytes) : Callback → Option Bytes
  | .url s => some (s.of data)
  | _ => none

def Callback.body? (data : Bytes) : Callback → Option Bytes
  | .body s => some (s.of data)
  | _ => none

def Callback.parser? : Callback → Option Parser
  | .headersComplete parser => some parser
  | _ => none

-- `http_parser` reports slices of the data that it has been given.
structure Read.InRange (r : Read) : Prop where
  slices : ∀ cb ∈ r.callbacks, ∀ s ∈ cb.slice?, s.pos + s.length ≤ r.data.length
  data : r.data.length ≤ READ_BUF_MAX_SIZE

namespace Read

def urls (r : Read) : List Bytes :=
  r.callbacks.filterMap (·.url? r.data)

def bodies (r : Read) : List Bytes :=
  r.callbacks.filterMap (·.body? r.data)

def parsers (r : Read) : List Parser :=
  r.callbacks.filterMap Callback.parser?

end Read

def Parser.methodName (parser : Parser) : Option Bytes :=
  match parser.method with
  | .get => some (Buffer.str "GET")
  | .post => some (Buffer.str "POST")
  | _ => none

theorem foldl_last {σ α β γ : Type} {step : σ → α → σ} {l : List α} {s : σ} (f : σ → β)
    (g : α → Option γ) (k : γ → β) (I : σ → Prop) (hI : ∀ s, ∀ a ∈ l, I s → I (step s a))
    (h : ∀ s, ∀ a ∈ l, I s → f (step s a) = ((g a).map k).getD (f s)) (hs : I s)
    : f (l.foldl step s) = ((l.filterMap g).getLast?.map k).getD (f s) := by
  induction l generalizing s with
  | nil => rfl
  | cons a l ih =>
    rw [List.foldl_cons, ih]
    . rw [h s a (by simp) hs, List.filterMap_cons]
      cases g a with
      | none => rfl
      | some c =>
        dsimp only
        rw [List.getLast?_cons]
        cases (l.filterMap g).getLast? <;> rfl
    . intro s a ha
      apply hI s a (List.mem_cons_of_mem _ ha)
    . intro s a ha
      apply h s a (List.mem_cons_of_mem _ ha)
    . exact hI s a (by simp) hs

namespace Ctx

def read (ctx : Ctx) (r : Read) : Ctx :=
  (ctx.recv r.data).parse r.callbacks

def readAll (ctx : Ctx) (rs : List Read) : Ctx :=
  rs.foldl read ctx

theorem callback_headersComplete {ctx : Ctx} {parser : Parser}
    : ctx.callback (.headersComplete parser) =
        { ctx with
          request.version := parser.httpMajor * 100 + parser.httpMinor
          request.method := parser.methodName.getD ctx.request.method
          keepAlive := parser.keepAlive } := by
  cases parser with
  | mk method => cases method <;> rfl

theorem callback_readBuf {ctx : Ctx} {cb : Callback} : (ctx.callback cb).readBuf = ctx.readBuf := by
  cases cb with
  | headersComplete parser =>
    rw [callback_headersComplete]
  | _ => rfl

theorem parse_readBuf {ctx : Ctx} {cbs : List Callback}
    : (ctx.parse cbs).readBuf = ctx.readBuf := by
  unfold parse
  induction cbs generalizing ctx with
  | nil => rfl
  | cons cb cbs ih => rw [List.foldl_cons, ih, callback_readBuf]

theorem read_readBuf {ctx : Ctx} {r : Read}
    : (ctx.read r).readBuf = ctx.readBuf.write 0 r.data := by
  unfold read
  rw [parse_readBuf]
  rfl

end Ctx

theorem Slice.of_write {s : Slice} {mem data : Bytes} (hs : s.pos + s.length ≤ data.length)
    : s.of (mem.write 0 data) = s.of data := by
  have hwrite : mem.write 0 data = data ++ mem.drop data.length := by
    simp [Bytes.write]
  unfold Slice.of
  rw [hwrite, List.drop_append_of_le_length (by omega), List.take_append_of_le_length]
  rw [List.length_drop]
  omega

theorem Slice.length_of {s : Slice} {data : Bytes} (hs : s.pos + s.length ≤ data.length)
    : (s.of data).length = s.length := by
  unfold Slice.of
  rw [List.length_take, List.length_drop]
  omega

namespace Ctx

section Read

variable {ctx : Ctx} {r : Read}

theorem read_last {β γ : Type} (f : Ctx → β) (g : Callback → Option γ) (k : γ → β)
    (hrecv : f (ctx.recv r.data) = f ctx)
    (hg : ∀ c : Ctx, ∀ cb ∈ r.callbacks, c.readBuf = ctx.readBuf.write 0 r.data →
      f (c.callback cb) = ((g cb).map k).getD (f c))
    : f (ctx.read r) = ((r.callbacks.filterMap g).getLast?.map k).getD (f ctx) := by
  rw [← hrecv]
  unfold read parse
  apply foldl_last f g k (fun c => c.readBuf = ctx.readBuf.write 0 r.data)
  . intro c cb _ hc
    rw [callback_readBuf, hc]
  . exact hg
  . rfl

theorem read_path (hr : r.InRange)
    : (ctx.read r).request.path = (r.urls.getLast?.map some).getD ctx.request.path := by
  apply read_last (fun c => c.request.path)
  . rfl
  . intro c cb hcb hc
    cases cb with
    | url s =>
      simp [callback, httpRequestOnUrl, hc, Slice.of_write (hr.slices _ hcb s rfl), Callback.url?]
    | headersComplete parser =>
      rw [callback_headersComplete]
      rfl
    | _ => rfl

theorem read_pathLen (hr : r.InRange)
    : (ctx.read r).request.pathLen
        = (r.urls.getLast?.map fun url => url.length % 2 ^ 32).getD ctx.request.pathLen := by
  apply read_last (fun c => c.request.pathLen)
  . rfl
  . intro c cb hcb hc
    cases cb with
    | url s =>
      simp [callback, httpRequestOnUrl, Slice.length_of (hr.slices _ hcb s rfl), Callback.url?]
    | headersComplete parser =>
      rw [callback_headersComplete]
      rfl
    | _ => rfl

theorem read_body (hr : r.InRange)
    : (ctx.read r).request.body = (r.bodies.getLast?.map some).getD ctx.request.body := by
  apply read_last (fun c => c.request.body)
  . rfl
  . intro c cb hcb hc
    cases cb with
    | body s =>
      simp [callback, httpRequestOnBody, hc, Slice.of_write (hr.slices _ hcb s rfl), Callback.body?]
    | headersComplete parser =>
      rw [callback_headersComplete]
      rfl
    | _ => rfl

theorem read_bodyLength (hr : r.InRange)
    : (ctx.read r).request.bodyLength
        = (r.bodies.getLast?.map List.length).getD ctx.request.bodyLength := by
  apply read_last (fun c => c.request.bodyLength)
  . rfl
  . intro c cb hcb hc
    cases cb with
    | body s =>
      simp [callback, httpRequestOnBody, Slice.length_of (hr.slices _ hcb s rfl), Callback.body?]
    | headersComplete parser =>
      rw [callback_headersComplete]
      rfl
    | _ => rfl

theorem read_version
    : (ctx.read r).request.version
        = (r.parsers.getLast?.map fun parser => parser.httpMajor * 100 + parser.httpMinor).getD
            ctx.request.version := by
  apply read_last (fun c => c.request.version)
  . rfl
  . intro c cb hcb hc
    cases cb with
    | headersComplete parser =>
      rw [callback_headersComplete]
      rfl
    | _ => rfl

theorem read_keepAlive
    : (ctx.read r).keepAlive = (r.parsers.getLast?.map Parser.keepAlive).getD ctx.keepAlive := by
  apply read_last (fun c => c.keepAlive)
  . rfl
  . intro c cb hcb hc
    cases cb <;> rfl

theorem read_method
    : (ctx.read r).request.method
        = ((r.parsers.filterMap Parser.methodName).getLast?.map id).getD ctx.request.method := by
  unfold Read.parsers
  rw [List.filterMap_filterMap]
  apply read_last (fun c => c.request.method)
  . rfl
  . intro c cb hcb hc
    cases cb with
    | headersComplete parser =>
      rw [callback_headersComplete]
      simp [Callback.parser?]
    | _ => rfl

theorem read_response
    : (ctx.read r).response = ctx.response ∧ (ctx.read r).writeBuf = ctx.writeBuf := by
  unfold read parse
  have hfold : ∀ (cbs : List Callback) (c : Ctx), (cbs.foldl callback c).response = c.response
      ∧ (cbs.foldl callback c).writeBuf = c.writeBuf := by
    intro cbs
    induction cbs with
    | nil =>
      intro c
      exact ⟨rfl, rfl⟩
    | cons cb cbs ih =>
      intro c
      rw [List.foldl_cons, (ih _).1, (ih _).2]
      cases cb with
      | headersComplete parser =>
        rw [callback_headersComplete]
        exact ⟨rfl, rfl⟩
      | _ => exact ⟨rfl, rfl⟩
  apply hfold r.callbacks (ctx.recv r.data)

end Read

section ReadAll

variable {ctx : Ctx} {rs : List Read}

theorem readAll_last {β γ : Type} (f : Ctx → β) (g : Read → List γ) (k : γ → β)
    (h : ∀ c : Ctx, ∀ r ∈ rs, f (c.read r) = ((g r).getLast?.map k).getD (f c))
    : f (ctx.readAll rs) = ((rs.flatMap g).getLast?.map k).getD (f ctx) := by
  unfold readAll
  induction rs generalizing ctx with
  | nil => rfl
  | cons r rs ih =>
    rw [List.foldl_cons, ih, h ctx r (by simp), List.flatMap_cons, List.getLast?_append]
    . cases (rs.flatMap g).getLast? <;> rfl
    . intro c r hr
      apply h c r (List.mem_cons_of_mem _ hr)

theorem readAll_path (hrs : ∀ r ∈ rs, r.InRange)
    : (ctx.readAll rs).request.path
        = ((rs.flatMap Read.urls).getLast?.map some).getD ctx.request.path := by
  apply readAll_last (fun c => c.request.path)
  intro c r hr
  apply read_path (hrs r hr)

theorem readAll_pathLen (hrs : ∀ r ∈ rs, r.InRange)
    : (ctx.readAll rs).request.pathLen
        = ((rs.flatMap Read.urls).getLast?.map fun url => url.length % 2 ^ 32).getD
            ctx.request.pathLen := by
  apply readAll_last (fun c => c.request.pathLen)
  intro c r hr
  apply read_pathLen (hrs r hr)

theorem readAll_body (hrs : ∀ r ∈ rs, r.InRange)
    : (ctx.readAll rs).request.body
        = ((rs.flatMap Read.bodies).getLast?.map some).getD ctx.request.body := by
  apply readAll_last (fun c => c.request.body)
  intro c r hr
  apply read_body (hrs r hr)

theorem readAll_bodyLength (hrs : ∀ r ∈ rs, r.InRange)
    : (ctx.readAll rs).request.bodyLength
        = ((rs.flatMap Read.bodies).getLast?.map List.length).getD ctx.request.bodyLength := by
  apply readAll_last (fun c => c.request.bodyLength)
  intro c r hr
  apply read_bodyLength (hrs r hr)

theorem readAll_version
    : (ctx.readAll rs).request.version
        = ((rs.flatMap Read.parsers).getLast?.map fun parser =>
            parser.httpMajor * 100 + parser.httpMinor).getD ctx.request.version := by
  apply readAll_last (fun c => c.request.version)
  intro c r hr
  exact read_version

theorem readAll_keepAlive
    : (ctx.readAll rs).keepAlive
        = ((rs.flatMap Read.parsers).getLast?.map Parser.keepAlive).getD ctx.keepAlive := by
  apply readAll_last (fun c => c.keepAlive)
  intro c r hr
  exact read_keepAlive

theorem readAll_method
    : (ctx.readAll rs).request.method
        = (((rs.flatMap Read.parsers).filterMap Parser.methodName).getLast?.map id).getD
            ctx.request.method := by
  rw [List.filterMap_flatMap]
  apply readAll_last (fun c => c.request.method)
  intro c r hr
  exact read_method

theorem readAll_response
    : (ctx.readAll rs).response = ctx.response ∧ (ctx.readAll rs).writeBuf = ctx.writeBuf := by
  unfold readAll
  induction rs generalizing ctx with
  | nil => exact ⟨rfl, rfl⟩
  | cons r rs ih =>
    rw [List.foldl_cons, ih.1, ih.2]
    exact read_response

end ReadAll

end Ctx

def Callback.headerField? : Callback → Option Slice
  | .headerField s => some s
  | _ => none

def lastField (name : Slice) (cbs : List Callback) : Slice :=
  (cbs.filterMap Callback.headerField?).getLast?.getD name

-- What the callbacks put into the header, `name` being the current header name before the first of
-- them.
def headerWrites (mem : Bytes) : Slice → List Callback → List (Bytes × Bytes)
  | _, [] => []
  | _, .headerField s :: cbs => headerWrites mem s cbs
  | name, .headerValue s :: cbs =>
    ((name.of mem).map tolower, s.of mem) :: headerWrites mem name cbs
  | name, _ :: cbs => headerWrites mem name cbs

def readWrites : Bytes → Slice → List Read → List (Bytes × Bytes)
  | _, _, [] => []
  | mem, name, r :: rs =>
    headerWrites (mem.write 0 r.data) name r.callbacks
      ++ readWrites (mem.write 0 r.data) (lastField name r.callbacks) rs

def insertAll (m : SortedMap Bytes Bytes) (l : List (Bytes × Bytes)) : SortedMap Bytes Bytes :=
  l.foldl (fun m e => m.insert e.1 e.2) m

namespace Ctx

theorem parse_header {ctx : Ctx} {cbs : List Callback}
    : (ctx.parse cbs).request.header
          = insertAll ctx.request.header (headerWrites ctx.readBuf ctx.currentHeaderName cbs)
      ∧ (ctx.parse cbs).currentHeaderName = lastField ctx.currentHeaderName cbs := by
  unfold parse insertAll lastField
  induction cbs generalizing ctx with
  | nil => exact ⟨rfl, rfl⟩
  | cons cb cbs ih =>
    rw [List.foldl_cons, ih.1, ih.2, callback_readBuf]
    cases cb with
    | headersComplete parser =>
      rw [callback_headersComplete]
      exact ⟨rfl, rfl⟩
    | headerField s =>
      refine ⟨rfl, ?_⟩
      simp only [callback, httpRequestOnHeaderField, List.filterMap_cons, Callback.headerField?]
      rw [List.getLast?_cons]
      simp
    | _ => exact ⟨rfl, rfl⟩

theorem read_header {ctx : Ctx} {r : Read}
    : (ctx.read r).request.header
          = insertAll ctx.request.header
              (headerWrites (ctx.readBuf.write 0 r.data) ctx.currentHeaderName r.callbacks)
      ∧ (ctx.read r).currentHeaderName = lastField ctx.currentHeaderName r.callbacks := by
  exact parse_header

theorem readAll_header {ctx : Ctx} {rs : List Read}
    : (ctx.readAll rs).request.header
        = insertAll ctx.request.header (readWrites ctx.readBuf ctx.currentHeaderName rs) := by
  unfold readAll
  induction rs generalizing ctx with
  | nil => rfl
  | cons r rs ih =>
    rw [List.foldl_cons, ih, read_header.1, read_header.2, read_readBuf]
    simp only [insertAll, readWrites, List.foldl_append]

end Ctx
end Http
end Fsw
