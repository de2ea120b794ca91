/- Module: Sunbolt/Control/ContentSecurityPolicy
   scope: sunbolt-control/src/security.rs, sunbolt-control/src/routes/mod.rs
   digest: The generated policy, and for which origin lists it says what they say. -/

import Sunbolt.Control.BrowserOrigin

set_option autoImplicit false
set_option relaxedAutoImplicit false

namespace Sunbolt.Control

def cspBaseHeaderValue : String :=
  "default-src 'self'; script-src 'self' 'wasm-unsafe-eval'; style-src 'self' 'unsafe-inline'; " ++
    "img-src 'self' data:; base-uri 'self'; form-action 'self'; object-src 'none'; " ++
    "frame-ancestors 'none'"

def pushUniqueSource (sources : List String) (source : String) : List String :=
  if sources.any (fun existing => existing = source) then sources else sources ++ [source]

/-- `strip_prefix`. -/
def stripPrefix (front text : String) : Option String :=
  if front.toList.isPrefixOf text.toList then
    some (String.ofList (text.toList.drop front.toList.length))
  else none

def websocketOriginFor (origin : String) : Option String :=
  match stripPrefix "https://" origin with
  | some rest => some ("wss://" ++ rest)
  | none => (stripPrefix "http://" origin).map ("ws://" ++ ·)

/-- The origins of a list, each followed by its WebSocket counterpart. -/
def pushOrigins (sources allowedOrigins : List String) : List String :=
  allowedOrigins.foldl (fun sources origin =>
    let sources := pushUniqueSource sources origin
    match websocketOriginFor origin with
    | some websocketOrigin => pushUniqueSource sources websocketOrigin
    | none => sources) sources

def connectSources (allowedOrigins : List String) : List String :=
  if allowsAnyOrigin allowedOrigins then ["'self'", "ws:", "wss:"]
  else pushOrigins ["'self'"] allowedOrigins

/-- `join(" ")`. -/
def joinSources (sources : List String) : String :=
  String.ofList ([' '].intercalate (sources.map String.toList))

def contentSecurityPolicy (allowedOrigins : List String) : String :=
  cspBaseHeaderValue ++ "; connect-src " ++ joinSources (connectSources allowedOrigins)

def contentSecurityPolicyHeader : String := "content-security-policy"

/-- `security_headers_middleware`; `none` is the panic on a policy that is not a header value. -/
def securityHeadersMiddleware (allowedOrigins : List String) (request : HttpRequest)
    (next : HttpRequest → HttpResponse) : Option HttpResponse :=
  let response := next request
  (headerValue (contentSecurityPolicy allowedOrigins)).map (fun csp =>
    { response with
      headers := response.headers.insert contentSecurityPolicyHeader (textBytes csp) })

/-! What a browser reads from the header. -/

def isAsciiWhitespace (c : Char) : Bool :=
  c = ' ' || c = '\t' || c = '\n' || c = '\r' || c = Char.ofNat 12

/-- The parts between whitespace. -/
def words (text : List Char) : List (List Char) :=
  (text.splitOnP isAsciiWhitespace).filter (· ≠ [])

/-- The directives of a policy, each with its name and its sources. -/
def directives (policy : String) : List (List String) :=
  (policy.toList.splitOn ';').map (fun part => (words part).map String.ofList)

/-- The source that a browser needs for the WebSockets of an origin. -/
def IsWebsocketOrigin (origin source : String) : Prop :=
  ∃ rest, (origin = "https://" ++ rest ∧ source = "wss://" ++ rest) ∨
    (origin = "http://" ++ rest ∧ source = "ws://" ++ rest)

/-- The policy can be sent, and it consists of the fixed directives and one for connections, with
    exactly the sources of the list. -/
structure MeansOrigins (allowedOrigins : List String) : Prop where
  sent : ∀ request next, ∃ response,
    securityHeadersMiddleware allowedOrigins request next = some response ∧
      response.headers.get contentSecurityPolicyHeader =
        some (textBytes (contentSecurityPolicy allowedOrigins))
  read : ∃ sources, directives (contentSecurityPolicy allowedOrigins) =
      directives cspBaseHeaderValue ++ ["connect-src" :: sources] ∧
    sources.Nodup ∧
    ∀ source, source ∈ sources ↔ source = "'self'" ∨ source ∈ allowedOrigins ∨
      ∃ origin ∈ allowedOrigins, IsWebsocketOrigin origin source

/-- A text that can stand as one source of a policy. -/
def IsSource (text : String) : Prop :=
  ∀ c ∈ text.toList, 33 ≤ c.toNat ∧ c.toNat ≠ 127 ∧ c ≠ ';'

/-! Words and directives. -/

theorem words_of_word {text : List Char} (h : ∀ c ∈ text, isAsciiWhitespace c = false)
    (hne : text ≠ []) : words text = [text] := by
  rw [words, List.splitOnP_eq_singleton h]
  simp [hne]

theorem words_append_cons (front back : List Char) {c : Char} (h : isAsciiWhitespace c = true) :
    words (front ++ c :: back) = words front ++ words back := by
  rw [words, List.splitOnP_append_cons _ _ h, List.filter_append]
  rfl

/-- Words joined by blanks are these words. -/
theorem words_intercalate {parts : List (List Char)}
    (h : ∀ part ∈ parts, part ≠ [] ∧ ∀ c ∈ part, isAsciiWhitespace c = false) :
    words ([' '].intercalate parts) = parts := by
  induction parts with
  | nil => rfl
  | cons part rest ih =>
    obtain ⟨⟨hne, hword⟩, hrest⟩ := List.forall_mem_cons.mp h
    cases rest with
    | nil => rw [List.intercalate_singleton, words_of_word hword hne]
    | cons next others =>
      rw [List.intercalate_cons_cons, List.append_assoc, List.singleton_append,
        words_append_cons _ _ (by decide), words_of_word hword hne, ih hrest]
      rfl

theorem directives_append (front back : String) :
    directives (front ++ ";" ++ back) = directives front ++ directives back := by
  have hsemicolon : ";".toList = [';'] := rfl
  rw [directives, String.toList_append, String.toList_append, hsemicolon, List.append_assoc,
    List.singleton_append, List.splitOn_append_cons_self, List.map_append]
  rfl

/-- The parts between separators have none in them. -/
theorem mem_splitOnP {p : Char → Bool} {text part : List Char} (h : part ∈ text.splitOnP p) :
    ∀ c ∈ part, c ∈ text ∧ p c = false := by
  induction text generalizing part with
  | nil =>
    rw [List.splitOnP_nil, List.mem_singleton] at h
    simp [h]
  | cons d rest ih =>
    rw [List.splitOnP_cons_eq_if_modifyHead] at h
    intro c hc
    split_ifs at h with hd
    · rcases List.mem_cons.mp h with rfl | hmem
      · cases hc
      · exact ⟨List.mem_cons_of_mem _ (ih hmem c hc).1, (ih hmem c hc).2⟩
    · obtain ⟨first, others, hsplit⟩ := List.exists_cons_of_ne_nil (List.splitOnP_ne_nil p rest)
      rw [hsplit, List.modifyHead_cons] at h
      rw [hsplit] at ih
      rcases List.mem_cons.mp h with rfl | hmem
      · rcases List.mem_cons.mp hc with rfl | hc
        · exact ⟨List.mem_cons_self .., Bool.eq_false_iff.mpr hd⟩
        · have hfirst := ih (List.mem_cons_self ..) c hc
          exact ⟨List.mem_cons_of_mem _ hfirst.1, hfirst.2⟩
      · have hother := ih (List.mem_cons_of_mem _ hmem) c hc
        exact ⟨List.mem_cons_of_mem _ hother.1, hother.2⟩

/-- What is read from a policy stands in it, with neither semicolons nor whitespace. -/
theorem mem_directives {policy source : String} {directive : List String}
    (hdirective : directive ∈ directives policy) (hsource : source ∈ directive) :
    ∀ c ∈ source.toList, c ∈ policy.toList ∧ c ≠ ';' ∧ isAsciiWhitespace c = false := by
  obtain ⟨part, hpart, rfl⟩ := List.mem_map.mp hdirective
  obtain ⟨word, hword, rfl⟩ := List.mem_map.mp hsource
  intro c hc
  rw [String.toList_ofList] at hc
  obtain ⟨hin, hspace⟩ := mem_splitOnP (List.mem_of_mem_filter hword) c hc
  rw [List.splitOn_eq_splitOnP] at hpart
  obtain ⟨hpolicy, hother⟩ := mem_splitOnP hpart c hin
  exact ⟨hpolicy, by simpa using hother, hspace⟩

/-! The sources. -/

theorem stripPrefix_eq_some {front text rest : String} :
    stripPrefix front text = some rest ↔ text = front ++ rest := by
  rw [stripPrefix]
  constructor
  · intro h
    split_ifs at h with hprefix
    obtain ⟨tail, htail⟩ := List.isPrefixOf_iff_prefix.mp hprefix
    cases h
    refine String.toList_injective ?_
    rw [String.toList_append, String.toList_ofList, ← htail, List.drop_left]
  · rintro rfl
    rw [String.toList_append, if_pos (List.isPrefixOf_iff_prefix.mpr (List.prefix_append _ _)),
      List.drop_left, String.ofList_toList]

theorem websocketOriginFor_eq_some {origin source : String} :
    websocketOriginFor origin = some source ↔ IsWebsocketOrigin origin source := by
  rw [websocketOriginFor]
  cases hsecure : stripPrefix "https://" origin with
  | some rest =>
    obtain rfl := stripPrefix_eq_some.mp hsecure
    constructor
    · rintro ⟨⟩
      exact ⟨rest, Or.inl ⟨rfl, rfl⟩⟩
    · rintro ⟨other, ⟨hsame, rfl⟩ | ⟨hplain, -⟩⟩
      · rw [← stripPrefix_eq_some, hsecure] at hsame
        cases hsame
        rfl
      · -- the fifth characters differ
        have hchars := congrArg (fun text => text.toList[4]?) hplain
        simp [String.toList_append] at hchars
  | none =>
    rw [Option.map_eq_some_iff]
    simp only [stripPrefix_eq_some]
    constructor
    · rintro ⟨rest, hplain, rfl⟩
      exact ⟨rest, Or.inr ⟨hplain, rfl⟩⟩
    · rintro ⟨rest, ⟨hother, -⟩ | ⟨hplain, rfl⟩⟩
      · rw [stripPrefix_eq_some.mpr hother] at hsecure
        cases hsecure
      · exact ⟨rest, hplain, rfl⟩

theorem mem_pushUniqueSource {sources : List String} {source other : String} :
    other ∈ pushUniqueSource sources source ↔ other ∈ sources ∨ other = source := by
  rw [pushUniqueSource]
  split_ifs with hknown
  · obtain ⟨existing, hmem, hsame⟩ := List.any_eq_true.mp hknown
    rw [decide_eq_true_iff] at hsame
    exact (or_iff_left_of_imp (fun h => h ▸ hsame ▸ hmem)).symm
  · rw [List.mem_append, List.mem_singleton]

theorem nodup_pushUniqueSource {sources : List String} (h : sources.Nodup) (source : String) :
    (pushUniqueSource sources source).Nodup := by
  rw [pushUniqueSource]
  split_ifs with hknown
  · exact h
  · rw [List.nodup_append]
    refine ⟨h, List.nodup_singleton _, fun existing hmem other hother => ?_⟩
    rw [List.mem_singleton.mp hother]
    exact fun hsame => hknown (List.any_eq_true.mpr ⟨existing, hmem, decide_eq_true hsame⟩)

/-- The sources of a list are distinct, and are those that come first with each origin and its
    WebSocket counterpart. -/
theorem pushOrigins_spec {sources : List String} (h : sources.Nodup)
    (allowedOrigins : List String) :
    (pushOrigins sources allowedOrigins).Nodup ∧
    ∀ source, source ∈ pushOrigins sources allowedOrigins ↔
      source ∈ sources ∨ source ∈ allowedOrigins ∨
        ∃ origin ∈ allowedOrigins, IsWebsocketOrigin origin source := by
  induction allowedOrigins generalizing sources with
  | nil => exact ⟨h, fun source => by simp [pushOrigins]⟩
  | cons origin rest ih =>
    have hpushed := nodup_pushUniqueSource h origin
    simp only [← websocketOriginFor_eq_some] at ih ⊢
    have hcounterparts : ∀ source, (∃ other ∈ origin :: rest,
        websocketOriginFor other = some source) ↔ websocketOriginFor origin = some source ∨
          ∃ other ∈ rest, websocketOriginFor other = some source := by
      simp
    cases hcounterpart : websocketOriginFor origin with
    | none =>
      have hnext : pushOrigins sources (origin :: rest) =
          pushOrigins (pushUniqueSource sources origin) rest := by
        rw [pushOrigins, List.foldl_cons, hcounterpart]
        rfl
      obtain ⟨hnodup, hmem⟩ := ih hpushed
      rw [hnext]
      refine ⟨hnodup, fun source => ?_⟩
      rw [hmem, mem_pushUniqueSource, hcounterparts, hcounterpart, List.mem_cons]
      tauto
    | some websocketOrigin =>
      have hnext : pushOrigins sources (origin :: rest) = pushOrigins
          (pushUniqueSource (pushUniqueSource sources origin) websocketOrigin) rest := by
        rw [pushOrigins, List.foldl_cons, hcounterpart]
        rfl
      obtain ⟨hnodup, hmem⟩ := ih (nodup_pushUniqueSource hpushed websocketOrigin)
      rw [hnext]
      refine ⟨hnodup, fun source => ?_⟩
      rw [hmem, mem_pushUniqueSource, mem_pushUniqueSource, hcounterparts, hcounterpart,
        Option.some_inj, List.mem_cons]
      tauto

section Policy

variable {allowedOrigins : List String}

theorem connectSources_spec (explicit : allowsAnyOrigin allowedOrigins = false) :
    (connectSources allowedOrigins).Nodup ∧
    ∀ source, source ∈ connectSources allowedOrigins ↔ source = "'self'" ∨
      source ∈ allowedOrigins ∨ ∃ origin ∈ allowedOrigins, IsWebsocketOrigin origin source := by
  have hpushed := pushOrigins_spec (List.nodup_singleton "'self'") allowedOrigins
  simp only [List.mem_singleton] at hpushed
  rw [connectSources, explicit]
  exact hpushed

/-- The counterpart of a source is one, and so are all sources of a list of such origins. -/
theorem isSource_connectSources (explicit : allowsAnyOrigin allowedOrigins = false)
    (h : ∀ origin ∈ allowedOrigins, origin.toList ≠ [] ∧ IsSource origin) :
    ∀ source ∈ connectSources allowedOrigins, source.toList ≠ [] ∧ IsSource source := by
  intro source hsource
  rcases ((connectSources_spec explicit).2 source).mp hsource with rfl | hmem | hcounterpart
  · refine ⟨by decide, ?_⟩
    have hself : ∀ c ∈ "'self'".toList, 33 ≤ c.toNat ∧ c.toNat ≠ 127 ∧ c ≠ ';' :=
      forall_of_all (by decide)
    exact hself
  · exact h source hmem
  · have hschemes : ∀ c ∈ "wss://".toList ++ "ws://".toList,
        33 ≤ c.toNat ∧ c.toNat ≠ 127 ∧ c ≠ ';' :=
      forall_of_all (by decide)
    obtain ⟨origin, horigin, rest, ⟨rfl, rfl⟩ | ⟨rfl, rfl⟩⟩ := hcounterpart
    · have hrest := (h _ horigin).2
      rw [IsSource, String.toList_append] at hrest ⊢
      refine ⟨by simp, fun c hc => ?_⟩
      rcases List.mem_append.mp hc with hscheme | hc
      · exact hschemes c (List.mem_append_left _ hscheme)
      · exact hrest c (List.mem_append_right _ hc)
    · have hrest := (h _ horigin).2
      rw [IsSource, String.toList_append] at hrest ⊢
      refine ⟨by simp, fun c hc => ?_⟩
      rcases List.mem_append.mp hc with hscheme | hc
      · exact hschemes c (List.mem_append_right _ hscheme)
      · exact hrest c (List.mem_append_right _ hc)

theorem IsSource.notWhitespace {text : String} (h : IsSource text) :
    ∀ c ∈ text.toList, isAsciiWhitespace c = false := by
  intro c hc
  have hrange := (h c hc).1
  rw [Bool.eq_false_iff]
  intro hspace
  simp only [isAsciiWhitespace, Bool.or_eq_true, decide_eq_true_eq] at hspace
  rcases hspace with (((rfl | rfl) | rfl) | rfl) | rfl <;> revert hrange <;> decide

private theorem mem_intercalate {parts : List (List Char)} {c : Char}
    (h : c ∈ [' '].intercalate parts) : c = ' ' ∨ ∃ part ∈ parts, c ∈ part := by
  induction parts with
  | nil => cases h
  | cons part rest ih =>
    cases rest with
    | nil =>
      rw [List.intercalate_singleton] at h
      exact Or.inr ⟨part, List.mem_cons_self .., h⟩
    | cons next others =>
      rw [List.intercalate_cons_cons, List.mem_append, List.mem_append, List.mem_singleton] at h
      rcases h with (hpart | hblank) | hrest
      · exact Or.inr ⟨part, List.mem_cons_self .., hpart⟩
      · exact Or.inl hblank
      · refine (ih hrest).imp_right ?_
        rintro ⟨other, hother, hc⟩
        exact ⟨other, List.mem_cons_of_mem _ hother, hc⟩

theorem toList_joinSources (sources : List String) :
    (joinSources sources).toList = [' '].intercalate (sources.map String.toList) :=
  String.toList_ofList

/-- A policy of sources is read as these sources. -/
theorem directives_connect {sources : List String} (hne : sources ≠ [])
    (h : ∀ source ∈ sources, source.toList ≠ [] ∧ IsSource source) :
    directives (" connect-src " ++ joinSources sources) = ["connect-src" :: sources] := by
  have hname : ∀ c ∈ " connect-src ".toList, c ≠ ';' := forall_of_all (by decide)
  have hsemicolon : ';' ∉ (" connect-src " ++ joinSources sources).toList := by
    intro hmem
    rw [String.toList_append, toList_joinSources] at hmem
    rcases List.mem_append.mp hmem with hmem | hmem
    · exact hname _ hmem rfl
    · rcases mem_intercalate hmem with hblank | ⟨part, hpart, hc⟩
      · revert hblank
        decide
      · obtain ⟨source, hsource, rfl⟩ := List.mem_map.mp hpart
        exact ((h source hsource).2 _ hc).2.2 rfl
  have hparts : ∀ part ∈ "connect-src".toList :: sources.map String.toList,
      part ≠ [] ∧ ∀ c ∈ part, isAsciiWhitespace c = false := by
    rw [List.forall_mem_cons, List.forall_mem_map]
    exact ⟨⟨by decide, forall_of_all (by decide)⟩, fun source hsource =>
      ⟨(h source hsource).1, (h source hsource).2.notWhitespace⟩⟩
  have htext : (" connect-src " ++ joinSources sources).toList =
      [] ++ ' ' :: [' '].intercalate ("connect-src".toList :: sources.map String.toList) := by
    rw [List.intercalate_cons_of_ne_nil (by simpa using hne), String.toList_append,
      toList_joinSources]
    rfl
  rw [directives, List.splitOn_eq_singleton hsemicolon, List.map_singleton, htext,
    words_append_cons _ _ (by decide), words_intercalate hparts]
  simp [words, Function.comp_def]

theorem contentSecurityPolicy_eq (allowedOrigins : List String) :
    contentSecurityPolicy allowedOrigins = cspBaseHeaderValue ++ ";" ++
      (" connect-src " ++ joinSources (connectSources allowedOrigins)) := by
  have hsplit : "; connect-src " = ";" ++ " connect-src " := rfl
  rw [contentSecurityPolicy, hsplit]
  simp only [String.append_assoc]

theorem isHeaderValue_append (front back : String) : isHeaderValue (front ++ back) = true ↔
    isHeaderValue front = true ∧ isHeaderValue back = true := by
  simp only [isHeaderValue, String.toList_append, List.all_append, Bool.and_eq_true]

theorem isHeaderValue_literal {text : String} {chars : List Char} (h : text = String.ofList chars)
    (hall : chars.all (fun c => c = '\t' || (32 ≤ c.toNat && c.toNat ≠ 127)) = true) :
    isHeaderValue text = true := by
  rwa [isHeaderValue, toList_literal h]

/-- Each literal of the fixed part is a header value. -/
theorem isHeaderValue_fixed : isHeaderValue (cspBaseHeaderValue ++ "; connect-src ") = true := by
  delta cspBaseHeaderValue
  rewrite [isHeaderValue_append, isHeaderValue_append, isHeaderValue_append]
  refine ⟨⟨⟨?_, ?_⟩, ?_⟩, ?_⟩
  all_goals exact isHeaderValue_literal rfl (by decide +kernel)

/-- A policy of sources is a header value. -/
theorem isHeaderValue_contentSecurityPolicy
    (h : ∀ source ∈ connectSources allowedOrigins, IsSource source) :
    isHeaderValue (contentSecurityPolicy allowedOrigins) = true := by
  have hfixed := isHeaderValue_fixed
  rw [isHeaderValue] at hfixed ⊢
  rw [contentSecurityPolicy, String.toList_append, List.all_append, hfixed, Bool.true_and,
    List.all_eq_true, toList_joinSources]
  intro c hc
  rcases mem_intercalate hc with rfl | ⟨part, hpart, hc⟩
  · decide
  · obtain ⟨source, hsource, rfl⟩ := List.mem_map.mp hpart
    have hrange := h source hsource c hc
    simp only [Bool.or_eq_true, Bool.and_eq_true, decide_eq_true_eq]
    exact Or.inr ⟨by omega, hrange.2.1⟩

/-- A sent policy with the sources of the list has only sources in the list. -/
private theorem isSource_of_means (means : MeansOrigins allowedOrigins) {origin : String}
    (horigin : origin ∈ allowedOrigins) : IsSource origin := by
  obtain ⟨sources, hread, -, hmem⟩ := means.read
  have hsource : origin ∈ "connect-src" :: sources :=
    List.mem_cons_of_mem _ ((hmem origin).mpr (Or.inr (Or.inl horigin)))
  have hdirective : "connect-src" :: sources ∈ directives (contentSecurityPolicy allowedOrigins) :=
    hread ▸ List.mem_append_right _ (List.mem_singleton_self _)
  obtain ⟨response, hresponse, -⟩ :=
    means.sent ⟨"GET", "/", [], []⟩ (fun _ => ⟨200, [], ""⟩)
  have hvalid : isHeaderValue (contentSecurityPolicy allowedOrigins) = true := by
    obtain ⟨csp, hcsp, -⟩ := Option.map_eq_some_iff.mp hresponse
    rw [headerValue] at hcsp
    by_contra hinvalid
    rw [if_neg hinvalid] at hcsp
    cases hcsp
  intro c hc
  obtain ⟨hpolicy, hsemicolon, hspace⟩ := mem_directives hdirective hsource c hc
  have hchar := List.all_eq_true.mp hvalid c hpolicy
  simp only [isAsciiWhitespace, Bool.or_eq_false_iff, decide_eq_false_iff_not] at hspace
  simp only [Bool.or_eq_true, Bool.and_eq_true, decide_eq_true_eq] at hchar
  obtain ⟨hfrom, hdelete⟩ := hchar.resolve_left hspace.1.1.1.2
  have hblank : c.toNat ≠ 32 := by
    intro h
    exact hspace.1.1.1.1 (Char.toNat_inj.mp h)
  exact ⟨by omega, hdelete, hsemicolon⟩

private theorem means_of_sources (explicit : allowsAnyOrigin allowedOrigins = false)
    (h : ∀ origin ∈ allowedOrigins, origin.toList ≠ [] ∧ IsSource origin) :
    MeansOrigins allowedOrigins := by
  have hsources := isSource_connectSources explicit h
  obtain ⟨hnodup, hmem⟩ := connectSources_spec explicit
  have hne : connectSources allowedOrigins ≠ [] :=
    List.ne_nil_of_mem ((hmem "'self'").mpr (Or.inl rfl))
  refine ⟨fun request next => ?_, connectSources allowedOrigins, ?_, hnodup, hmem⟩
  · have hvalid := isHeaderValue_contentSecurityPolicy (fun source hsource =>
      (hsources source hsource).2)
    rw [securityHeadersMiddleware, headerValue, if_pos hvalid]
    refine ⟨_, rfl, ?_⟩
    simp [HeaderMap.get_insert]
  · rw [contentSecurityPolicy_eq, directives_append, directives_connect hne hsources]

/-- In production the policy says what the origin list says exactly if no entry of the list has a
    semicolon, a space, a tab or another control character in it. -/
theorem csp_means_origins_iff {value : Option String} {authConfig : StartupAuthConfig}
    {lookup : String → Option String}
    (production : validateRuntimeConfigForMode .production authConfig
      (allowedOriginsFromEnv value) lookup = .ok ()) :
    MeansOrigins (allowedOriginsFromEnv value) ↔
      ∀ origin ∈ allowedOriginsFromEnv value, IsSource origin := by
  constructor
  · exact fun means origin horigin => isSource_of_means means horigin
  · exact fun h => means_of_sources (explicit_of_validate production) (fun origin horigin =>
      ⟨(mem_allowedOriginsFromEnv horigin).1, h origin horigin⟩)

end Policy

example : directives cspBaseHeaderValue =
    [["default-src", "'self'"], ["script-src", "'self'", "'wasm-unsafe-eval'"],
      ["style-src", "'self'", "'unsafe-inline'"], ["img-src", "'self'", "data:"],
      ["base-uri", "'self'"], ["form-action", "'self'"], ["object-src", "'none'"],
      ["frame-ancestors", "'none'"]] := by
  have hchars : ∀ {a b c : String} {as bs cs : List Char}, a = String.ofList as →
      b = String.ofList bs → c = String.ofList cs →
      a.toList ++ b.toList ++ c.toList = as ++ bs ++ cs := by
    intro a b c as bs cs ha hb hc
    rw [toList_literal ha, toList_literal hb, toList_literal hc]
  delta cspBaseHeaderValue
  rewrite [directives, String.toList_append, String.toList_append, hchars rfl rfl rfl]
  decide +kernel

theorem csp_means_origins_iff_twice :
    MeansOrigins (allowedOriginsFromEnv (some "https://app.example, https://app.example")) := by
  refine (@csp_means_origins_iff _ .production (fun _ => some "set") (by decide +kernel)).mpr ?_
  have horigins : allowedOriginsFromEnv (some "https://app.example, https://app.example") =
      ["https://app.example", "https://app.example"] := by
    decide +kernel
  rw [horigins]
  simp [IsSource]

/-- A list on two lines is accepted, and every response panics. -/
theorem csp_panics_on_newline :
    validateRuntimeConfigForMode .production .production
      (allowedOriginsFromEnv (some "https://a.example\nhttps://b.example"))
      (fun _ => some "set") = .ok () ∧
    (∀ request next, securityHeadersMiddleware
      (allowedOriginsFromEnv (some "https://a.example\nhttps://b.example")) request next = none) ∧
    ¬MeansOrigins (allowedOriginsFromEnv (some "https://a.example\nhttps://b.example")) := by
  have hpanic : headerValue (contentSecurityPolicy
      (allowedOriginsFromEnv (some "https://a.example\nhttps://b.example"))) = none := by
    have hnewline : '\n' ∈ (joinSources (connectSources
        (allowedOriginsFromEnv (some "https://a.example\nhttps://b.example")))).toList := by
      decide +kernel
    refine if_neg (fun hvalid => ?_)
    rw [contentSecurityPolicy, isHeaderValue_append] at hvalid
    have hkept := List.all_eq_true.mp hvalid.2 _ hnewline
    exact absurd hkept (by decide)
  have hnone : ∀ request next, securityHeadersMiddleware
      (allowedOriginsFromEnv (some "https://a.example\nhttps://b.example")) request next =
        none := by
    intro request next
    rw [securityHeadersMiddleware, hpanic]
    rfl
  refine ⟨by decide +kernel, hnone, fun means => ?_⟩
  obtain ⟨response, hresponse, -⟩ :=
    means.sent ⟨"GET", "/", [], []⟩ (fun _ => ⟨200, [], ""⟩)
  rw [hnone] at hresponse
  cases hresponse

end Sunbolt.Control
