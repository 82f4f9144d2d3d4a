import Fsw.Http.Lemmas.Isolation

namespace Fsw
namespace Http

inductive Token where
  | messageBegin
  | url (data : Bytes)
  | headerField (data : Bytes)
  | headerValue (data : Bytes)
  | headersComplete (parser : Parser)
  | body (data : Bytes)
  | messageComplete
  deriving DecidableEq, Repr

def Callback.token (data : Bytes) : Callback → Token
  | .messageBegin => .messageBegin
  | .url s => .url (s.of data)
  | .headerField s => .headerField (s.of data)
  | .headerValue s => .headerValue (s.of data)
  | .headersComplete parser => .headersComplete parser
  | .body s => .body (s.of data)
  | .messageComplete => .messageComplete

def Read.tokens (r : Read) : List Token :=
  r.callbacks.map (·.token r.data)

/--
A request, with its parts in pieces. There is at least one piece of every part but the body, pieces
may be empty. `trailers` are the headers that come after a chunked body.
-/
structure Fragments where
  urls : List Bytes
  headers : List (List Bytes × List Bytes)
  info : Parser
  bodies : List Bytes
  trailers : List (List Bytes × List Bytes)
  urls_ne : urls ≠ []
  headers_ne : ∀ h ∈ headers ++ trailers, h.1 ≠ [] ∧ h.2 ≠ []

namespace Fragments

def headerTokens (hs : List (List Bytes × List Bytes)) : List Token :=
  hs.flatMap fun h => h.1.map .headerField ++ h.2.map .headerValue

def tokens (f : Fragments) : List Token :=
  [.messageBegin] ++ f.urls.map .url ++ headerTokens f.headers ++ [.headersComplete f.info]
    ++ f.bodies.map .body ++ headerTokens f.trailers ++ [.messageComplete]

def url (f : Fragments) : Bytes :=
  f.urls.flatten

def header (f : Fragments) : List (Bytes × Bytes) :=
  (f.headers ++ f.trailers).map fun h => (h.1.flatten.map tolower, h.2.flatten)

def body (f : Fragments) : Bytes :=
  f.bodies.flatten

end Fragments

structure Delivery extends Fragments where
  reads : List Read
  inRange : ∀ r ∈ reads, r.InRange
  tokens_eq : reads.flatMap Read.tokens = toFragments.tokens

def lastEntry (l : List (Bytes × Bytes)) (k : Bytes) : Option Bytes :=
  (l.reverse.find? fun e => e.1 = k).map Prod.snd

/--
The request has the whole of each part. If there is more than one header of a name then it is the
last one of them that counts.
-/
structure Fragments.Whole (f : Fragments) (r : Request) : Prop where
  path : r.path = some f.url
  pathLen : r.pathLen = f.url.length
  header : ∀ k, r.header.find? k = lastEntry f.header k
  body : r.body.getD [] = f.body
  bodyLength : r.bodyLength = f.body.length

theorem Fragments.whole_iff {f : Fragments} {r : Request}
    : f.Whole r ↔ (r.path = some f.url ∧ r.pathLen = f.url.length)
        ∧ (r.body.getD [] = f.body ∧ r.bodyLength = f.body.length)
        ∧ ∀ k, r.header.find? k = lastEntry f.header k := by
  constructor
  . intro h
    exact ⟨⟨h.path, h.pathLen⟩, ⟨h.body, h.bodyLength⟩, h.header⟩
  . intro h
    exact ⟨h.1.1, h.1.2, h.2.2, h.2.1.1, h.2.1.2⟩

namespace Fragments

def NamesWhole (f : Fragments) : Prop :=
  ∀ h ∈ f.headers ++ f.trailers, h.1.getLast? = some h.1.flatten

instance (f : Fragments) : Decidable f.NamesWhole :=
  inferInstanceAs (Decidable (∀ h ∈ _, _))

-- Of several headers of a name, this is about the last one.
def ValuesWhole (f : Fragments) : Prop :=
  ∀ hs h hs', f.headers ++ f.trailers = hs ++ h :: hs' →
    (∀ h' ∈ hs', h'.1.flatten.map tolower ≠ h.1.flatten.map tolower)
      → h.2.getLast? = some h.2.flatten

end Fragments

def Read.lastName (r : Read) : Option Slice :=
  (r.callbacks.filterMap Callback.headerField?).getLast?

/--
Until there is another name, the reads with pieces of a value and the ones before them stop short of
the place of `name`.
-/
def Slice.Kept (name : Slice) : List Read → Prop
  | [] => True
  | r :: rs =>
    fieldFirst ((r :: rs).flatMap Read.callbacks)
      ∨ r.data.length ≤ name.pos ∧ (r.lastName = none → name.Kept rs)

def NamesKept : List Read → Prop
  | [] => True
  | r :: rs => (∀ name ∈ r.lastName, name.Kept rs) ∧ NamesKept rs

def Token.url? : Token → Option Bytes
  | .url data => some data
  | _ => none

def Token.body? : Token → Option Bytes
  | .body data => some data
  | _ => none

def Token.field? : Token → Option Bytes
  | .headerField data => some data
  | _ => none

def Token.fieldFirst : List Token → Bool
  | [] => true
  | .headerField _ :: _ => true
  | .headerValue _ :: _ => false
  | _ :: ts => fieldFirst ts

namespace Read

variable {rs : List Read}

theorem flatMap_filterMap {γ : Type} (h : Bytes → Callback → Option γ) {g : Token → Option γ}
    (hg : ∀ data cb, h data cb = g (cb.token data))
    : rs.flatMap (fun r => r.callbacks.filterMap (h r.data))
        = (rs.flatMap Read.tokens).filterMap g := by
  rw [List.filterMap_flatMap]
  congr 1
  funext r
  unfold Read.tokens
  rw [List.filterMap_map]
  congr 1
  funext cb
  apply hg r.data cb

theorem flatMap_urls : rs.flatMap Read.urls = (rs.flatMap Read.tokens).filterMap Token.url? := by
  apply flatMap_filterMap (fun data cb => cb.url? data)
  intro data cb
  cases cb <;> rfl

theorem flatMap_bodies
    : rs.flatMap Read.bodies = (rs.flatMap Read.tokens).filterMap Token.body? := by
  apply flatMap_filterMap (fun data cb => cb.body? data)
  intro data cb
  cases cb <;> rfl

theorem fieldFirst_append {cbs rest : List Callback} {ts : List Token} {data : Bytes}
    (h : fieldFirst rest = Token.fieldFirst ts)
    : fieldFirst (cbs ++ rest) = Token.fieldFirst (cbs.map (·.token data) ++ ts) := by
  induction cbs with
  | nil => exact h
  | cons cb cbs ih =>
    cases cb with
    | headerField s => rfl
    | headerValue s => rfl
    | _ => exact ih

theorem fieldFirst_eq
    : fieldFirst (rs.flatMap Read.callbacks) = Token.fieldFirst (rs.flatMap Read.tokens) := by
  induction rs with
  | nil => rfl
  | cons r rs ih => apply fieldFirst_append ih

end Read

namespace Fragments

variable (f : Fragments)

theorem filterMap_headerTokens {γ : Type} {g : Token → Option γ}
    {hs : List (List Bytes × List Bytes)} (hfield : ∀ data, g (.headerField data) = none)
    (hvalue : ∀ data, g (.headerValue data) = none)
    : (headerTokens hs).filterMap g = [] := by
  rw [List.filterMap_eq_nil_iff]
  intro t ht
  simp only [headerTokens, List.mem_flatMap, List.mem_append, List.mem_map] at ht
  rcases ht with ⟨h, _, ⟨data, _, heq⟩ | ⟨data, _, heq⟩⟩
  . rw [← heq, hfield]
  . rw [← heq, hvalue]

theorem filterMap_tokens {γ : Type} {g : Token → Option γ}
    (hg : ∀ t : Token, t.url? = none → t.body? = none → g t = none)
    : f.tokens.filterMap g
        = f.urls.filterMap (fun data => g (.url data))
          ++ f.bodies.filterMap (fun data => g (.body data)) := by
  have hheader : ∀ hs, (headerTokens hs).filterMap g = [] := by
    intro hs
    apply filterMap_headerTokens
    . intro data
      apply hg _ rfl rfl
    . intro data
      apply hg _ rfl rfl
  have hnotify : ∀ t : Token, t.url? = none → t.body? = none → [t].filterMap g = [] := by
    intro t hurl hbody
    rw [List.filterMap_cons, hg t hurl hbody]
    rfl
  simp only [tokens, List.filterMap_append, List.filterMap_map, hheader]
  rw [hnotify .messageBegin rfl rfl, hnotify (.headersComplete f.info) rfl rfl,
    hnotify .messageComplete rfl rfl]
  simp

theorem filterMap_url : f.tokens.filterMap Token.url? = f.urls := by
  rw [filterMap_tokens]
  . simp [Token.url?]
  . intro t hurl _
    exact hurl

theorem filterMap_body : f.tokens.filterMap Token.body? = f.bodies := by
  rw [filterMap_tokens]
  . simp [Token.body?]
  . intro t _ hbody
    exact hbody

theorem fieldFirst_headerTokens {hs : List (List Bytes × List Bytes)} {ts : List Token}
    (hne : ∀ h ∈ hs, h.1 ≠ []) (hts : Token.fieldFirst ts)
    : Token.fieldFirst (headerTokens hs ++ ts) := by
  cases hs with
  | nil => exact hts
  | cons h hs =>
    rcases h with ⟨_ | ⟨field, fields⟩, values⟩
    . apply absurd rfl (hne _ List.mem_cons_self)
    . rfl

theorem fieldFirst_map {c : Bytes → Token} {data : List Bytes} {ts : List Token}
    (hc : ∀ data ts, Token.fieldFirst (c data :: ts) = Token.fieldFirst ts)
    : Token.fieldFirst (data.map c ++ ts) = Token.fieldFirst ts := by
  induction data with
  | nil => rfl
  | cons d data ih => rw [List.map_cons, List.cons_append, hc, ih]

theorem fieldFirst_body
    : Token.fieldFirst
        (.headersComplete f.info
          :: (f.bodies.map .body ++ (headerTokens f.trailers ++ [.messageComplete]))) := by
  simp only [Token.fieldFirst]
  rw [fieldFirst_map]
  . apply fieldFirst_headerTokens
    . intro h hmem
      apply (f.headers_ne h (List.mem_append_right _ hmem)).1
    . rfl
  . intro data ts
    rfl

theorem fieldFirst_tokens : Token.fieldFirst f.tokens := by
  simp only [tokens, List.append_assoc, List.cons_append, List.nil_append, Token.fieldFirst]
  rw [fieldFirst_map]
  . apply fieldFirst_headerTokens
    . intro h hmem
      apply (f.headers_ne h (List.mem_append_left _ hmem)).1
    . apply f.fieldFirst_body
  . intro data ts
    rfl

end Fragments

namespace Delivery

variable (d : Delivery)

theorem flatMap_urls : d.reads.flatMap Read.urls = d.urls := by
  rw [Read.flatMap_urls, d.tokens_eq, Fragments.filterMap_url]

theorem flatMap_bodies : d.reads.flatMap Read.bodies = d.bodies := by
  rw [Read.flatMap_bodies, d.tokens_eq, Fragments.filterMap_body]

theorem fieldFirst : fieldFirst (d.reads.flatMap Read.callbacks) := by
  rw [Read.fieldFirst_eq, d.tokens_eq]
  apply d.fieldFirst_tokens

theorem length_url_lt {url : Bytes} (h : url ∈ d.urls) : url.length < 2 ^ 32 := by
  rw [← d.flatMap_urls] at h
  simp only [List.mem_flatMap, Read.urls, List.mem_filterMap] at h
  rcases h with ⟨r, hr, cb, hcb, hurl⟩
  have hrange := d.inRange r hr
  have hdata := hrange.data
  unfold READ_BUF_MAX_SIZE at hdata
  cases cb with
  | url s =>
    have hs := hrange.slices _ hcb s rfl
    injection hurl with hurl
    rw [← hurl, Slice.length_of hs]
    omega
  | _ => contradiction

theorem path_iff (ctx : Ctx)
    : ((ctx.readAll d.reads).request.path = some d.url
        ∧ (ctx.readAll d.reads).request.pathLen = d.url.length)
      ↔ d.urls.getLast? = some d.url := by
  rw [Ctx.readAll_path d.inRange, Ctx.readAll_pathLen d.inRange, d.flatMap_urls]
  cases hurl : d.urls.getLast? with
  | none =>
    rw [List.getLast?_eq_none_iff] at hurl
    apply absurd hurl d.urls_ne
  | some url =>
    have hlt := d.length_url_lt (List.mem_of_getLast? hurl)
    simp only [Option.map_some, Option.getD_some, Option.some.injEq, Nat.mod_eq_of_lt hlt]
    constructor
    . intro h
      apply h.1
    . intro h
      exact ⟨h, by rw [h]⟩

theorem body_iff {ctx : Ctx} (hctx : ctx.request.body = none)
    : ((ctx.readAll d.reads).request.body.getD [] = d.body
        ∧ (ctx.readAll d.reads).request.bodyLength = d.body.length)
      ↔ d.bodies.getLast? = some d.body ∨ d.bodies = [] ∧ ctx.request.bodyLength = 0 := by
  rw [Ctx.readAll_body d.inRange, Ctx.readAll_bodyLength d.inRange, d.flatMap_bodies, hctx]
  cases hbody : d.bodies.getLast? with
  | none =>
    rw [List.getLast?_eq_none_iff] at hbody
    simp [hbody, Fragments.body]
  | some body =>
    have hne : d.bodies ≠ [] := by
      intro hnil
      rw [hnil] at hbody
      contradiction
    simp only [Option.map_some, Option.getD_some, Option.some.injEq, hne, false_and, or_false]
    constructor
    . intro h
      apply h.1
    . intro h
      exact ⟨h, by rw [h]⟩

end Delivery

-- What the callbacks put into the header if a name stays in the read buffer until its value
-- arrives.
def tokenWrites : Bytes → List Token → List (Bytes × Bytes)
  | _, [] => []
  | _, .headerField data :: ts => tokenWrites data ts
  | name, .headerValue data :: ts => (name.map tolower, data) :: tokenWrites name ts
  | name, _ :: ts => tokenWrites name ts

section TokenWrites

variable {name name' : Bytes} {ts ts' : List Token}

theorem tokenWrites_eq_of_fieldFirst (h : Token.fieldFirst ts)
    : tokenWrites name ts = tokenWrites name' ts := by
  induction ts with
  | nil => rfl
  | cons t ts ih =>
    cases t with
    | headerField data => rfl
    | headerValue data => contradiction
    | _ => apply ih h

theorem tokenWrites_append
    : tokenWrites name (ts ++ ts')
        = tokenWrites name ts ++ tokenWrites ((ts.filterMap Token.field?).getLast?.getD name)
          ts' := by
  induction ts generalizing name with
  | nil => rfl
  | cons t ts ih =>
    cases t with
    | headerField data =>
      simp only [List.cons_append, tokenWrites, List.filterMap_cons,
        Token.field?, List.getLast?_cons]
      exact ih
    | headerValue data =>
      simp only [List.cons_append, tokenWrites]
      rw [ih]
      rfl
    | _ => exact ih

theorem headerWrites_eq_tokenWrites {mem data : Bytes} {name : Slice} {cbs : List Callback}
    (hcbs : ∀ cb ∈ cbs, ∀ s ∈ cb.slice?, s.pos + s.length ≤ data.length)
    : headerWrites (mem.write 0 data) name cbs
        = tokenWrites (name.of (mem.write 0 data)) (cbs.map (·.token data)) := by
  induction cbs generalizing name with
  | nil => rfl
  | cons cb cbs ih =>
    have hrest : ∀ cb ∈ cbs, ∀ s ∈ cb.slice?, s.pos + s.length ≤ data.length := by
      intro cb hcb
      apply hcbs cb (List.mem_cons_of_mem _ hcb)
    cases cb with
    | headerField s =>
      have hs := hcbs _ List.mem_cons_self s rfl
      unfold headerWrites
      rw [ih hrest, Slice.of_write hs]
      rfl
    | headerValue s =>
      have hs := hcbs _ List.mem_cons_self s rfl
      unfold headerWrites
      rw [ih hrest, Slice.of_write hs]
      rfl
    | _ => apply ih hrest

theorem fieldFirst_of_append {cbs rest : List Callback} (h : fieldFirst (cbs ++ rest))
    : fieldFirst cbs := by
  induction cbs with
  | nil => rfl
  | cons cb cbs ih =>
    cases cb with
    | headerField s => rfl
    | headerValue s => contradiction
    | _ => exact ih h

theorem fieldFirst_of_lastName {r : Read} {rest : List Callback}
    (h : fieldFirst (r.callbacks ++ rest)) (hlast : r.lastName = none)
    : fieldFirst rest := by
  unfold Read.lastName at hlast
  rw [List.getLast?_eq_none_iff] at hlast
  generalize r.callbacks = cbs at h hlast
  induction cbs with
  | nil => exact h
  | cons cb cbs ih =>
    cases cb with
    | headerField s => contradiction
    | headerValue s => contradiction
    | _ => exact ih h hlast

theorem Slice.of_write_of_le {s : Slice} {mem data : Bytes} (h : data.length ≤ s.pos)
    : s.of (mem.write 0 data) = s.of mem := by
  unfold Slice.of Bytes.write
  rw [List.take_zero, List.nil_append, List.drop_append, List.drop_eq_nil_of_le h, List.nil_append,
    List.drop_drop]
  congr 2
  omega

theorem getLast?_field {r : Read}
    : (r.tokens.filterMap Token.field?).getLast? = r.lastName.map (·.of r.data) := by
  unfold Read.tokens Read.lastName
  rw [← List.getLast?_map, List.filterMap_map, List.map_filterMap]
  congr 2
  funext cb
  cases cb <;> rfl

theorem Read.InRange.lastName {r : Read} {s : Slice} (h : r.InRange) (hs : r.lastName = some s)
    : s.pos + s.length ≤ r.data.length := by
  have hmem := List.mem_of_getLast? hs
  rw [List.mem_filterMap] at hmem
  rcases hmem with ⟨cb, hcb, hfield⟩
  cases cb with
  | headerField s' =>
    injection hfield with hfield
    rw [← hfield]
    exact h.slices _ hcb s' rfl
  | _ => contradiction

theorem readWrites_eq_tokenWrites {mem : Bytes} {slice : Slice} {rs : List Read}
    (hrs : ∀ r ∈ rs, r.InRange) (hkept : NamesKept rs)
    (hname : fieldFirst (rs.flatMap Read.callbacks) ∨ slice.of mem = name ∧ slice.Kept rs)
    : readWrites mem slice rs = tokenWrites name (rs.flatMap Read.tokens) := by
  induction rs generalizing mem slice name with
  | nil => rfl
  | cons r rs ih =>
    have hr := hrs r List.mem_cons_self
    have hread : fieldFirst ((r :: rs).flatMap Read.callbacks)
        ∨ slice.of (mem.write 0 r.data) = name ∧ (r.lastName = none → slice.Kept rs) := by
      rcases hname with hfirst | ⟨hof, hfirst | ⟨hle, hrest⟩⟩
      . exact .inl hfirst
      . exact .inl hfirst
      . exact .inr ⟨(Slice.of_write_of_le hle).trans hof, hrest⟩
    rw [List.flatMap_cons] at hread
    rw [readWrites, List.flatMap_cons, tokenWrites_append, headerWrites_eq_tokenWrites hr.slices]
    congr 1
    . rcases hread with hfirst | ⟨hof, _⟩
      . apply tokenWrites_eq_of_fieldFirst
        have := @Read.fieldFirst_append r.callbacks [] [] r.data rfl
        rw [List.append_nil, List.append_nil] at this
        rw [← this]
        exact fieldFirst_of_append hfirst
      . rw [hof]
        rfl
    . apply ih (fun r hmem => hrs r (List.mem_cons_of_mem _ hmem)) hkept.2
      have hfield : lastField slice r.callbacks = r.lastName.getD slice := rfl
      rw [hfield, getLast?_field]
      cases hlast : r.lastName with
      | some s => exact .inr ⟨Slice.of_write (hr.lastName hlast), hkept.1 s hlast⟩
      | none =>
        rcases hread with hfirst | ⟨hof, hrest⟩
        . exact .inl (fieldFirst_of_lastName hfirst hlast)
        . exact .inr ⟨hof, hrest hlast⟩

theorem tokenWrites_map {c : Bytes → Token} {data : List Bytes}
    (hc : ∀ name data ts, tokenWrites name (c data :: ts) = tokenWrites name ts)
    : tokenWrites name (data.map c ++ ts) = tokenWrites name ts := by
  induction data with
  | nil => rfl
  | cons d data ih => rw [List.map_cons, List.cons_append, hc, ih]

theorem tokenWrites_map_headerField {fields : List Bytes}
    : tokenWrites name (fields.map .headerField ++ ts)
        = tokenWrites (fields.getLast?.getD name) ts := by
  induction fields generalizing name with
  | nil => rfl
  | cons field fields ih =>
    rw [List.map_cons, List.cons_append, tokenWrites, ih, List.getLast?_cons]
    rfl

theorem tokenWrites_map_headerValue {values : List Bytes}
    : tokenWrites name (values.map .headerValue ++ ts)
        = values.map (fun value => (name.map tolower, value)) ++ tokenWrites name ts := by
  induction values with
  | nil => rfl
  | cons value values ih =>
    rw [List.map_cons, List.cons_append, tokenWrites, ih, List.map_cons, List.cons_append]

end TokenWrites

namespace Fragments

def key (h : List Bytes × List Bytes) : Bytes :=
  h.1.flatten.map tolower

def pieces (hs : List (List Bytes × List Bytes)) : List (Bytes × Bytes) :=
  hs.flatMap fun h => h.2.map fun value => (key h, value)

theorem tokenWrites_headerTokens {name : Bytes} {hs : List (List Bytes × List Bytes)}
    {ts : List Token} (hnames : ∀ h ∈ hs, h.1.getLast? = some h.1.flatten)
    (hts : Token.fieldFirst ts)
    : tokenWrites name (headerTokens hs ++ ts) = pieces hs ++ tokenWrites [] ts := by
  induction hs generalizing name with
  | nil => apply tokenWrites_eq_of_fieldFirst hts
  | cons h hs ih =>
    rw [List.forall_mem_cons] at hnames
    have hrest := fun name => @ih name hnames.2
    unfold headerTokens pieces at *
    rw [List.flatMap_cons, List.flatMap_cons, List.append_assoc, List.append_assoc,
      tokenWrites_map_headerField, hnames.1, Option.getD_some, tokenWrites_map_headerValue, hrest,
      List.append_assoc]
    rfl

theorem NamesWhole.tokenWrites_eq {f : Fragments} (h : f.NamesWhole)
    : tokenWrites [] f.tokens = pieces (f.headers ++ f.trailers) := by
  have hheaders : ∀ e ∈ f.headers, e.1.getLast? = some e.1.flatten := by
    intro e he
    apply h e (List.mem_append_left _ he)
  have htrailers : ∀ e ∈ f.trailers, e.1.getLast? = some e.1.flatten := by
    intro e he
    apply h e (List.mem_append_right _ he)
  have hpieces : pieces (f.headers ++ f.trailers) = pieces f.headers ++ pieces f.trailers := by
    unfold pieces
    rw [List.flatMap_append]
  rw [hpieces]
  simp only [tokens, List.append_assoc, List.cons_append, List.nil_append, tokenWrites]
  rw [tokenWrites_map, tokenWrites_headerTokens hheaders f.fieldFirst_body]
  . simp only [tokenWrites]
    rw [tokenWrites_map, tokenWrites_headerTokens htrailers rfl]
    . simp [tokenWrites]
    . intro name data ts
      rfl
  . intro name data ts
    rfl

section LastEntry

variable {hs : List (List Bytes × List Bytes)} {l l' : List (Bytes × Bytes)} {k : Bytes}

theorem lastEntry_append : lastEntry (l ++ l') k = (lastEntry l' k).or (lastEntry l k) := by
  unfold lastEntry
  rw [List.reverse_append, List.find?_append, Option.map_or]

theorem lastEntry_values {name : Bytes} {values : List Bytes}
    : lastEntry (values.map fun value => (name, value)) k
        = if name = k then values.getLast? else none := by
  unfold lastEntry
  rw [← List.map_reverse, List.find?_map]
  split
  . next h =>
    rw [← List.head?_reverse]
    cases values.reverse <;> simp [h]
  . next h => simp [Function.comp_def, h]

theorem lastEntry_pieces (hne : ∀ h ∈ hs, h.2 ≠ [])
    : lastEntry (pieces hs) k = (hs.reverse.find? (key · = k)).bind fun h => h.2.getLast? := by
  induction hs with
  | nil => rfl
  | cons h hs ih =>
    rw [List.forall_mem_cons] at hne
    have hpieces : pieces (h :: hs) = (h.2.map fun value => (key h, value)) ++ pieces hs := by
      unfold pieces
      rw [List.flatMap_cons]
    rw [hpieces, lastEntry_append, lastEntry_values, ih hne.2, List.reverse_cons, List.find?_append]
    cases hfind : hs.reverse.find? (key · = k) with
    | some h' =>
      have hmem := List.mem_reverse.mp (List.mem_of_find?_eq_some hfind)
      cases hlast : h'.2.getLast? with
      | none => exact absurd (List.getLast?_eq_none_iff.mp hlast) (hne.2 h' hmem)
      | some value => simp [hlast]
    | none =>
      by_cases hkey : key h = k
      . simp [hkey]
      . simp [hkey]

theorem lastEntry_map
    : lastEntry (hs.map fun h => (key h, h.2.flatten)) k
        = (hs.reverse.find? (key · = k)).map fun h => h.2.flatten := by
  unfold lastEntry
  rw [← List.map_reverse, List.find?_map, Option.map_map]
  rfl

theorem valuesWhole_iff (f : Fragments)
    : f.ValuesWhole ↔ ∀ k, lastEntry (pieces (f.headers ++ f.trailers)) k
        = lastEntry f.header k := by
  have hne : ∀ h ∈ f.headers ++ f.trailers, h.2 ≠ [] := fun h hh => (f.headers_ne h hh).2
  have hheader : f.header = (f.headers ++ f.trailers).map fun h => (key h, h.2.flatten) := rfl
  simp only [lastEntry_pieces hne, hheader, lastEntry_map]
  constructor
  . intro h k
    cases hfind : (f.headers ++ f.trailers).reverse.find? (key · = k) with
    | none => rfl
    | some e =>
      rcases List.find?_eq_some_iff_append.mp hfind with ⟨hkey, as, bs, hsplit, has⟩
      rw [List.reverse_eq_iff, List.reverse_append, List.reverse_cons, List.append_assoc] at hsplit
      simp only [decide_eq_true_eq] at hkey
      have hlast := h bs.reverse e as.reverse hsplit ?_
      . simp [hlast]
      . intro h' hh'
        have := has h' (List.mem_reverse.mp hh')
        simp only [Bool.not_eq_true', decide_eq_false_iff_not] at this
        rw [← hkey] at this
        exact this
  . intro h hs e hs' hsplit hlater
    have hfind : (f.headers ++ f.trailers).reverse.find? (key · = key e) = some e := by
      apply List.find?_eq_some_iff_append.mpr
      refine ⟨by simp, hs'.reverse, hs.reverse, ?_, ?_⟩
      . rw [hsplit]
        simp
      . intro h' hh'
        have hne : key h' ≠ key e := hlater h' (List.mem_reverse.mp hh')
        simp [hne]
    have hk := h (key e)
    rw [hfind] at hk
    exact hk

end LastEntry

end Fragments

namespace Ctx

theorem readAll_header_find? {ctx : Ctx} {d : Delivery} {k : Bytes} (hctx : ctx.request.header = [])
    (hkept : NamesKept d.reads)
    : (ctx.readAll d.reads).request.header.find? k = lastEntry (tokenWrites [] d.tokens) k := by
  have hwrites : readWrites ctx.readBuf ctx.currentHeaderName d.reads
    = tokenWrites [] d.tokens := by
    rw [readWrites_eq_tokenWrites d.inRange hkept (.inl d.fieldFirst), d.tokens_eq]
  rw [readAll_header, hctx, hwrites]
  unfold insertAll
  rw [SortedMap.find?_foldl_insert]
  simp [SortedMap.find?, lastEntry]

theorem readAll_header_iff {ctx : Ctx} {d : Delivery} (hctx : ctx.request.header = [])
    (hnames : d.NamesWhole) (hkept : NamesKept d.reads)
    : (∀ k, (ctx.readAll d.reads).request.header.find? k = lastEntry d.header k)
        ↔ d.ValuesWhole := by
  simp only [readAll_header_find? hctx hkept, hnames.tokenWrites_eq]
  exact (d.valuesWhole_iff).symm

/--
On a connection with any number of requests before it, a request comes out whole if the last piece
of its url, of its body, of each name and of the value of the last header of each name is all there
is of them, and no name is overwritten before the last piece of its value. If there is no body at
all then its length is not set on a new connection. The part about the names is the only one that
can fail without harm, if what is found in the place of a name is overruled by a header after it.
-/
theorem readAll_whole (u : Uninit) (ms : List Message) (d : Delivery)
    : (d.urls.getLast? = some d.url
          ∧ (d.bodies.getLast? = some d.body ∨ d.bodies = [] ∧ (ms ≠ [] ∨ u.bodyLength = 0))
          ∧ d.NamesWhole ∧ NamesKept d.reads ∧ d.ValuesWhole
        → d.Whole (((new u).parsed ms).readAll d.reads).request)
      ∧ (d.Whole (((new u).parsed ms).readAll d.reads).request →
          d.urls.getLast? = some d.url
          ∧ (d.bodies.getLast? = some d.body ∨ d.bodies = [] ∧ (ms ≠ [] ∨ u.bodyLength = 0))
          ∧ (d.NamesWhole → NamesKept d.reads → d.ValuesWhole)) := by
  rcases parsed_request u ms with ⟨hbody, hheader, hlength⟩
  have hzero : ((new u).parsed ms).request.bodyLength = 0 ↔ ms ≠ [] ∨ u.bodyLength = 0 := by
    rw [hlength]
    by_cases hms : ms = []
    . simp [hms]
    . simp [hms]
  rw [Fragments.whole_iff, d.path_iff, d.body_iff hbody, hzero]
  constructor
  . rintro ⟨hurl, hbodies, hnames, hkept, hvalues⟩
    exact ⟨hurl, hbodies, (readAll_header_iff hheader hnames hkept).mpr hvalues⟩
  . rintro ⟨hurl, hbodies, hfind⟩
    exact ⟨hurl, hbodies, fun hnames hkept => (readAll_header_iff hheader hnames hkept).mp hfind⟩

end Ctx

-- The name `ab` of the first header is in two reads, and what is found under `b` gives way to the
-- second header.
def splitName : Delivery where
  urls := [Buffer.str "/"]
  headers :=
    [([Buffer.str "a", Buffer.str "b"], [Buffer.str "x"]), ([Buffer.str "b"], [Buffer.str "y"]),
      ([Buffer.str "ab"], [Buffer.str "z"])]
  info := ⟨.get, 1, 1, true⟩
  bodies := []
  trailers := []
  urls_ne := by decide
  headers_ne := by decide
  reads :=
    [{ data := Buffer.str "GET / HTTP/1.1\r\na"
       callbacks := [.messageBegin, .url ⟨4, 1⟩, .headerField ⟨16, 1⟩] },
      { data := Buffer.str "b: x\r\nb: y\r\nab: z\r\n\r\n"
        callbacks :=
          [.headerField ⟨0, 1⟩, .headerValue ⟨3, 1⟩, .headerField ⟨6, 1⟩, .headerValue ⟨9, 1⟩,
            .headerField ⟨12, 2⟩, .headerValue ⟨16, 1⟩, .headersComplete ⟨.get, 1, 1, true⟩,
            .messageComplete] }]
  inRange := by decide
  tokens_eq := by decide

example
    : ¬splitName.NamesWhole
      ∧ ((Ctx.new .zero).readAll splitName.reads).request.header
        = [(Buffer.str "ab", Buffer.str "z"), (Buffer.str "b", Buffer.str "y")] := by
  decide

def twoChunks : Delivery where
  urls := [Buffer.str "/"]
  headers := [([Buffer.str "Transfer-Encoding"], [Buffer.str "chunked"])]
  info := ⟨.post, 1, 1, true⟩
  bodies := [Buffer.str "a", Buffer.str "b"]
  trailers := []
  urls_ne := by decide
  headers_ne := by decide
  reads :=
    [{ data := Buffer.str
         "POST / HTTP/1.1\r\nTransfer-Encoding: chunked\r\n\r\n1\r\na\r\n1\r\nb\r\n0\r\n\r\n"
       callbacks :=
         [.messageBegin, .url ⟨5, 1⟩, .headerField ⟨17, 17⟩, .headerValue ⟨36, 7⟩,
           .headersComplete ⟨.post, 1, 1, true⟩, .body ⟨50, 1⟩, .body ⟨56, 1⟩, .messageComplete] }]
  inRange := by decide
  tokens_eq := by decide

theorem twoChunks_body
    : twoChunks.body = Buffer.str "ab"
      ∧ ((Ctx.new .zero).readAll twoChunks.reads).request.body = some (Buffer.str "b")
      ∧ ¬twoChunks.Whole ((Ctx.new .zero).readAll twoChunks.reads).request := by
  refine ⟨by decide, by decide, ?_⟩
  intro h
  have := h.bodyLength
  contradiction

end Http
end Fsw
