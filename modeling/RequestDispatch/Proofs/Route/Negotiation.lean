import RequestDispatch.Proofs.Route.Acceptance

/-!
Media ranges over several headers. A client may list the media ranges that it accepts in one header
or spread them over several ones. The conditions of a route on headers see all values of a name, but
what the route produces is compared with the first Accept header alone: ranges that are spread count
as far as the first header carries them (`test_spread_ranges`).
-/

namespace RequestDispatch

namespace Text

/-- What may stand around the items of a list in a header. -/
def isPadding (character : Char) : Bool := character == ' ' || character == '\t'

/-- What a readable header consists of. -/
def isReadable (character : Char) : Bool :=
  (32 ≤ character.toNat && character.toNat < 127) || character.toNat = 9

theorem of_padding {test : Char → Bool} (blank : test ' ' = true) (tab : test '\t' = true)
    {character : Char} (padding : isPadding character = true) : test character = true := by
  rw [isPadding, Bool.or_eq_true, beq_iff_eq, beq_iff_eq] at padding
  rcases padding with rfl | rfl
  · exact blank
  · exact tab

theorem flatten_splitOn (separator : Char) (text : List Char) :
    (splitOn separator text).flatten = text.filter (· ≠ separator) := by
  induction text with
  | nil => rfl
  | cons character rest ih =>
      rw [splitOn]
      split
      · next same => simp [same, ih]
      · next other =>
        obtain ⟨piece, pieces, found⟩ := List.exists_cons_of_ne_nil (splitOn_ne_nil separator rest)
        rw [found, List.flatten_cons] at ih
        simp [found, other, ih]

theorem forall_mem_splitOn {property : Char → Prop} {separator : Char} (held : property separator)
    (text : List Char) :
    (∀ piece ∈ splitOn separator text, ∀ character ∈ piece, property character) ↔
      ∀ character ∈ text, property character := by
  rw [← List.forall_mem_flatten, flatten_splitOn]
  constructor
  · intro kept character member
    by_cases same : character = separator
    · exact same ▸ held
    · exact kept character (List.mem_filter.2 ⟨member, decide_eq_true same⟩)
  · intro all character member
    exact all character (List.mem_of_mem_filter member)

end Text

/-- What stands between the commas of a header, without the blanks around it. The bytes are taken
for the characters of their numbers, whether the header is readable or not. -/
def listedRanges (value : List UInt8) : List (List Char) :=
  (Text.splitOn ',' (value.map Char.ofUInt8)).map (Text.trimBoth Text.isPadding)

/-- The one Accept header of a request is spread over several ones, which carry the same ranges in
the same order. All other headers stay. -/
structure Headers.Spreads (joined spread : Headers) (whole first : List UInt8)
    (rest : List (List UInt8)) : Prop where
  one : joined.values "accept" = [whole]
  several : spread.values "accept" = first :: rest
  ranges : listedRanges whole = (first :: rest).flatMap listedRanges
  others : (spread.fields.filter fun field => field.1 != "accept") =
    joined.fields.filter fun field => field.1 != "accept"

def Requirement.subject : Requirement → String
  | .present name => name
  | .equals name _ => name

namespace RouteMapping

def HeadersMet (mapping : RouteMapping) (headers : Headers) : Prop :=
  ∀ requirement ∈ mapping.headers, requirement.holds headers.texts = true

/-- The route produces something that an Accept header lists. One that cannot be read asks for
nothing in particular. -/
def Offers (mapping : RouteMapping) (value : List UInt8) : Prop :=
  readableText? value = none ∨
    ∃ range ∈ listedRanges value, ∃ entry ∈ mapping.produces, MediaFits (String.ofList range) entry

end RouteMapping

theorem media_type_trimmed (text : List Char) :
    mediaType (String.ofList (Text.trimBoth Text.isPadding text)) =
      mediaType (String.ofList text) := by
  obtain ⟨before, after, whole, padding⟩ := Text.trimBoth_within Text.isPadding text
  generalize Text.trimBoth Text.isPadding text = core at whole
  have passed : ∀ character ∈ before ++ after, decide (character ≠ ';') = true := by
    intro character member
    rw [decide_eq_true_eq]
    rintro rfl
    exact absurd (padding _ member) (by decide)
  rw [List.forall_mem_append] at passed padding
  -- The parameters end the text, or the blanks behind it do.
  obtain ⟨tail, within, cut⟩ : ∃ tail, tail ⊆ after ∧
      (core ++ after).takeWhile (· ≠ ';') = core.takeWhile (· ≠ ';') ++ tail := by
    rw [List.takeWhile_append]
    split
    · next all =>
      refine ⟨after, List.Subset.refl _, ?_⟩
      rw [List.takeWhile_eq_self_iff.2 passed.2, (List.takeWhile_prefix _).eq_of_length all]
    · exact ⟨[], List.nil_subset _, (List.append_nil _).symm⟩
  have blank : ∀ character ∈ before ++ tail, Text.isBlank character = true := by
    rw [List.forall_mem_append]
    exact ⟨fun character member => Text.of_padding rfl rfl (padding.1 character member),
      fun character member => Text.of_padding rfl rfl (padding.2 character (within member))⟩
  rw [mediaType, mediaType, Text.trim, Text.trim, String.toList_ofList, String.toList_ofList,
    String.toList_ofList, String.toList_ofList, whole, List.append_assoc,
    List.takeWhile_append_of_pos passed.1, cut, ← List.append_assoc,
    Text.trimBoth_surrounded blank]

theorem readable_iff (value : List UInt8) :
    readableText? value ≠ none ↔
      ∀ character ∈ value.map Char.ofUInt8, Text.isReadable character = true := by
  have readable (byte : UInt8) : Text.isReadable (Char.ofUInt8 byte) =
      ((0x20 ≤ byte && byte < 0x7F) || byte = 0x09) := by
    simp only [Text.isReadable, UInt8.le_iff_toNat_le, UInt8.lt_iff_toNat_lt, ← UInt8.toNat_inj]
    rfl
  rw [readableText?, List.forall_mem_map]
  simp only [readable, ← List.all_eq_true]
  split <;> simp_all

theorem readable_characters {value : List UInt8} {text : String}
    (readable : readableText? value = some text) : text.toList = value.map Char.ofUInt8 := by
  rw [readableText?] at readable
  split at readable
  · cases readable
    exact String.toList_ofList
  · cases readable

/-- A header is readable exactly if the ranges that it lists are. -/
theorem readable_iff_ranges (value : List UInt8) :
    readableText? value ≠ none ↔
      ∀ range ∈ listedRanges value, ∀ character ∈ range, Text.isReadable character = true := by
  have comma : Text.isReadable ',' = true := by decide
  rw [readable_iff, ← Text.forall_mem_splitOn comma, listedRanges, List.forall_mem_map]
  apply forall₂_congr
  intro piece _
  exact (Text.forall_mem_trimBoth (fun _ => Text.of_padding rfl rfl) piece).symm

namespace Headers.Spreads

variable {joined spread : Headers} {whole first : List UInt8} {rest : List (List UInt8)}

theorem elsewhere (spreads : joined.Spreads spread whole first rest) {name : String}
    (other : normalizeHeaderName? name ≠ some "accept") :
    spread.values name = joined.values name := by
  have kept (headers : Headers) {key : String} (differs : key ≠ "accept") :
      (headers.fields.filter fun field => field.1 == key) =
        (headers.fields.filter fun field => field.1 != "accept").filter
          fun field => field.1 == key := by
    rw [List.filter_filter]
    apply List.filter_congr
    intro field _
    by_cases same : field.1 = key <;> simp [same, differs]
  rw [values, values]
  cases known : normalizeHeaderName? name with
  | none => rfl
  | some key =>
      have differs : key ≠ "accept" := by
        rintro rfl
        exact other known
      dsimp only
      rw [kept spread differs, kept joined differs, spreads.others]

theorem offers (spreads : joined.Spreads spread whole first rest) {mapping : RouteMapping}
    (offers : mapping.Offers first) : mapping.Offers whole := by
  have listed : listedRanges first ⊆ listedRanges whole := by
    rw [spreads.ranges, List.flatMap_cons]
    exact List.subset_append_left _ _
  rcases offers with unreadable | ⟨range, member, fits⟩
  · left
    by_contra readable
    refine (readable_iff_ranges first).2 ?_ unreadable
    intro range member
    exact (readable_iff_ranges whole).1 readable range (listed member)
  · exact .inr ⟨range, listed member, fits⟩

end Headers.Spreads

namespace RouteMapping

/-- What a route produces is compared with the first Accept header. -/
theorem produces_for_first (mapping : RouteMapping) (declared : mapping.produces ≠ [])
    {request : Request} {value : List UInt8} {others : List (List UInt8)}
    (given : request.headers.values "accept" = value :: others) :
    mapping.producesFor request = true ↔ mapping.Offers value := by
  have found : request.firstHeader? "accept" = readableText? value := by
    rw [← request.header_eq_first (by decide), Request.header?, Headers.text?, given]
    rfl
  rw [produces_for_iff, Request.acceptedRanges, found, Offers]
  cases readable : readableText? value with
  | none =>
      obtain ⟨entry, member⟩ := List.exists_mem_of_ne_nil mapping.produces declared
      have anything : MediaFits "*/*" entry := .anyFirst (by decide)
      simp only [true_or, iff_true]
      exact ⟨"*/*", by decide, entry, member, anything⟩
  | some text =>
      have fits (piece : List Char) (entry : String) :
          MediaFits (String.ofList (Text.trimBoth Text.isPadding piece)) entry ↔
            MediaFits (String.ofList piece) entry := by
        simp only [← media_matches_iff, mediaMatches, media_type_trimmed]
      simp [listedRanges, readable_characters readable, fits]

theorem headers_met_iff (mapping : RouteMapping) (request : Request) :
    mapping.HeadersMet request.headers ↔
      ∀ requirement ∈ mapping.headers, requirement.Met request.HasHeader := by
  apply forall₂_congr
  intro requirement _
  exact Requirement.holds_iff request.mem_headerValues requirement

theorem headers_met_elsewhere {mapping : RouteMapping} {joined spread : Headers}
    {whole first : List UInt8} {rest : List (List UInt8)}
    (spreads : joined.Spreads spread whole first rest)
    (others : ∀ requirement ∈ mapping.headers,
      normalizeHeaderName? requirement.subject ≠ some "accept") :
    mapping.HeadersMet spread ↔ mapping.HeadersMet joined := by
  apply forall₂_congr
  intro requirement member
  have same : spread.texts requirement.subject = joined.texts requirement.subject := by
    rw [Headers.texts, Headers.texts, spreads.elsewhere (others requirement member)]
  cases requirement <;> simp only [Requirement.subject] at same <;>
    rw [Requirement.holds, Requirement.holds, same]

section

variable {mapping : RouteMapping} (declared : mapping.produces ≠ []) {request : Request}
  {spread : Headers} {whole first : List UInt8} {rest : List (List UInt8)}
  (spreads : request.headers.Spreads spread whole first rest)

include declared spreads

theorem offers_of_accepts (accepts : mapping.Accepts { request with headers := spread }) :
    mapping.Offers first := by
  have produces := accepts.produces.resolve_left declared
  exact (mapping.produces_for_first declared spreads.several).1
    ((mapping.produces_for_iff _).2 produces)

/-- A route that offers something that the first of several headers lists takes both requests or
neither. -/
theorem accepts_spread_iff
    (alike : mapping.HeadersMet spread ↔ mapping.HeadersMet request.headers)
    (offers : mapping.Offers first) :
    mapping.Accepts { request with headers := spread } ↔ mapping.Accepts request := by
  let several : Request := { request with headers := spread }
  have headers : (∀ requirement ∈ mapping.headers, requirement.Met several.HasHeader) ↔
      ∀ requirement ∈ mapping.headers, requirement.Met request.HasHeader :=
    (mapping.headers_met_iff several).symm.trans (alike.trans (mapping.headers_met_iff request))
  have contentType : several.firstHeader? "content-type" = request.firstHeader? "content-type" := by
    rw [← several.header_eq_first (by decide), ← request.header_eq_first (by decide),
      Request.header?, Request.header?, Headers.text?, Headers.text?,
      spreads.elsewhere (by decide)]
  have byFirst := (mapping.produces_for_iff several).1
    ((mapping.produces_for_first declared spreads.several).2 offers)
  have byWhole := (mapping.produces_for_iff request).1
    ((mapping.produces_for_first declared spreads.one).2 (spreads.offers offers))
  constructor
  · intro accepts
    refine ⟨accepts.method, accepts.parameters, headers.1 accepts.headers, ?_, .inr byWhole⟩
    exact contentType ▸ accepts.consumes
  · intro accepts
    refine ⟨accepts.method, accepts.parameters, headers.2 accepts.headers, ?_, .inr byFirst⟩
    exact contentType ▸ accepts.consumes

end

/-- A request lists the media ranges that it accepts in one header, or the same ranges in the same
order in several headers. If the route produces something that the first of several headers lists
(or if this header is not readable), both requests are tested alike, provided that the conditions of
the route on headers hold for both or for neither, as they do if none of them is about Accept.
Otherwise the route does not take the request with several headers, whatever the others list. -/
theorem test_spread_ranges (mapping : RouteMapping) (declared : mapping.produces ≠ [])
    (request : Request) {spread : Headers} {whole first : List UInt8} {rest : List (List UInt8)}
    (spreads : request.headers.Spreads spread whole first rest) (path : String) :
    (mapping.Offers first →
      (mapping.HeadersMet spread ↔ mapping.HeadersMet request.headers) →
        mapping.test { request with headers := spread } path = mapping.test request path) ∧
    ((∀ requirement ∈ mapping.headers,
        normalizeHeaderName? requirement.subject ≠ some "accept") →
      (mapping.HeadersMet spread ↔ mapping.HeadersMet request.headers)) ∧
    (¬ mapping.Offers first → mapping.test { request with headers := spread } path = none) := by
  refine ⟨?_, headers_met_elsewhere spreads, ?_⟩
  · intro offers alike
    apply Option.ext
    rintro ⟨found, confidence⟩
    rw [test_eq_some, test_eq_some, accepts_spread_iff declared spreads alike offers]
  · intro withheld
    rw [Option.eq_none_iff_forall_ne_some]
    rintro ⟨found, confidence⟩ taken
    exact withheld (offers_of_accepts declared spreads (test_eq_some.1 taken).2.1)

/-! A page in one media type, and a client that accepts two. -/

namespace HtmlPage

def page : RouteMapping := ⟨[⟨"/", ['/'], []⟩], [], [], [], [], ["text/html"]⟩

def asking (accepted : List String) : Request :=
  { writtenPath := "/", query := [], method := "GET", body := []
    headers := ⟨accepted.map fun value => ("accept", Text.utf8Bytes value)⟩ }

end HtmlPage

open HtmlPage in
/-- The page is found if the first of two headers lists its media type, with whatever blanks. -/
theorem html_listed_first :
    page.produces ≠ [] ∧
      (asking ["text/html , application/json"]).headers.Spreads
        (asking ["text/html", "application/json"]).headers
        (Text.utf8Bytes "text/html , application/json") (Text.utf8Bytes "text/html")
        [Text.utf8Bytes "application/json"] ∧
      page.Offers (Text.utf8Bytes "text/html") ∧
      page.test (asking ["text/html", "application/json"]) "/" =
        page.test (asking ["text/html , application/json"]) "/" := by
  have declared : page.produces ≠ [] := by decide
  have spreads : (asking ["text/html , application/json"]).headers.Spreads
      (asking ["text/html", "application/json"]).headers
      (Text.utf8Bytes "text/html , application/json") (Text.utf8Bytes "text/html")
      [Text.utf8Bytes "application/json"] :=
    ⟨by decide +kernel, by decide +kernel, by decide +kernel, rfl⟩
  have offers : page.Offers (Text.utf8Bytes "text/html") := by
    refine .inr ⟨"text/html".toList, by decide +kernel, "text/html", by decide, .same ?_⟩
    decide +kernel
  have tested := test_spread_ranges page declared _ spreads "/"
  exact ⟨declared, spreads, offers, tested.1 offers (tested.2.1 (by decide))⟩

open HtmlPage in
/-- The page is not found if its media type stands in the second header. -/
theorem html_listed_second :
    (asking ["application/json, text/html"]).headers.Spreads
      (asking ["application/json", "text/html"]).headers
      (Text.utf8Bytes "application/json, text/html") (Text.utf8Bytes "application/json")
      [Text.utf8Bytes "text/html"] ∧
    page.test (asking ["application/json, text/html"]) "/" = some (⟨[], []⟩, 1) ∧
    page.test (asking ["application/json", "text/html"]) "/" = none := by
  refine ⟨⟨?_, ?_, ?_, rfl⟩, ?_, ?_⟩ <;> decide +kernel

end RouteMapping

end RequestDispatch
