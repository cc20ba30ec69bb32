import RamlDocs.Proofs.Definition.RepeatedTraits
import RamlDocs.Proofs.Definition.UriPath
import RamlDocs.Proofs.Value.Sources

/-!
# What methods and their traits declare together

The responses of a method are those that its mapping and the mappings of its traits declare, and so
are its query parameters (`Method.said`). Declarations under the same key are one: what the method
says counts first, then what its traits say, in order. Declarations under different keys stay apart,
even if nothing tells them apart once they are read.

So the codes of the responses are distinct unless different keys are written alike, as the number
200 and the text are (`Method.responses_of_said`). Traits that are read from a file have texts as
keys, but a placeholder can put a number into key position. The names of the parameters are distinct
unless a name comes with and without the mark of optional ones, which is a part of the key and not
of the name (`Method.queryParameters_of_said`).
-/

namespace RamlDocs

open Template (Params)

/-- The name of a parameter whose declaration stands under the text `s`: a question mark at the end
says that it is optional. -/
def Parameter.unmarked (s : String) : String :=
  if s.toList.getLast? == some '?' then String.ofList s.toList.dropLast else s

namespace Parameter

variable {s t : String}

/-- No two texts without a mark have the same name, and neither do two texts with one. -/
theorem eq_of_unmarked (mark : s.toList.getLast? = some '?' ↔ t.toList.getLast? = some '?')
    (alike : unmarked s = unmarked t) : s = t := by
  unfold unmarked at alike
  by_cases marked : s.toList.getLast? = some '?'
  · have other := mark.mp marked
    rw [if_pos (beq_iff_eq.mpr marked), if_pos (beq_iff_eq.mpr other)] at alike
    have names : s.toList.dropLast = t.toList.dropLast := String.ofList_injective alike
    obtain ⟨cs, hs⟩ := List.getLast?_eq_some_iff.mp marked
    obtain ⟨ds, ht⟩ := List.getLast?_eq_some_iff.mp other
    rw [hs, ht, List.dropLast_concat, List.dropLast_concat] at names
    exact String.toList_injective (by rw [hs, ht, names])
  · have other := mt mark.mpr marked
    rwa [if_neg (mt beq_iff_eq.mp marked), if_neg (mt beq_iff_eq.mp other)] at alike

theorem unmarked_of_marked (marked : s.toList.getLast? = some '?') : s = unmarked s ++ "?" := by
  obtain ⟨cs, hs⟩ := List.getLast?_eq_some_iff.mp marked
  rw [unmarked, if_pos (beq_iff_eq.mpr marked), hs, List.dropLast_concat]
  exact String.toList_injective (by simp [hs])

theorem unmarked_of_not_marked (bare : s.toList.getLast? ≠ some '?') : unmarked s = s := by
  rw [unmarked, if_neg (mt beq_iff_eq.mp bare)]

theorem unmarked_append (s : String) : unmarked (s ++ "?") = s := by
  have marked : (s ++ "?").toList.getLast? = some '?' := by simp
  rw [unmarked, if_pos (beq_iff_eq.mpr marked)]
  simp

/-- Texts name parameters apart if and only if they differ in more than the mark. -/
theorem nodup_unmarked_iff {texts : List String} :
    (texts.map unmarked).Nodup ↔
      texts.Nodup ∧ ∀ s ∈ texts, s ++ "?" ∈ texts → s.toList.getLast? = some '?' := by
  constructor
  · intro nodup
    have once : texts.Nodup := nodup.of_map unmarked
    refine ⟨once, fun s plain optional => ?_⟩
    by_contra bare
    have alike : unmarked s = unmarked (s ++ "?") := by
      rw [unmarked_append, unmarked_of_not_marked bare]
    have same := (List.nodup_map_iff_inj_on once).mp nodup s plain _ optional alike
    apply bare
    rw [same]
    simp
  · rintro ⟨once, marks⟩
    -- where the names of two texts are the same and only one of them has the mark, the other one
    -- is the name
    have apart : ∀ s ∈ texts, ∀ t ∈ texts, s.toList.getLast? = some '?' →
        t.toList.getLast? ≠ some '?' → unmarked s ≠ unmarked t := by
      intro s hs t ht marked bare alike
      rw [unmarked_of_not_marked bare] at alike
      have held := unmarked_of_marked marked
      rw [alike] at held
      exact bare (marks t ht (held ▸ hs))
    refine (List.nodup_map_iff_inj_on once).mpr fun s hs t ht alike => eq_of_unmarked ?_ alike
    constructor
    · intro marked
      by_contra bare
      exact apart s hs t ht marked bare alike
    · intro marked
      by_contra bare
      exact apart t ht s hs marked bare alike.symm

theorem name_eq_unmarked {k : Key} {v : Value} {p : Parameter}
    (h : Parameter.ofDeclaration k v = .ok p) : p.name = unmarked k.display := by
  obtain ⟨⟨name, optional⟩, named, same⟩ := map_eq_ok.mp (name_ofDeclaration h)
  obtain ⟨s, written, split_⟩ := map_eq_ok.mp named
  rw [← same, ← Key.eq_display_of_asText written, unmarked]
  split at split_
  next marked => rw [if_pos marked, ← split_]
  next bare => rw [if_neg bare, ← split_]

end Parameter

theorem Response.code_ofDeclaration {scope : Scope} {k : Key} {v : Value} {r : Response}
    (h : Response.ofDeclaration scope k v = .ok r) : r.code = k.display := by
  obtain ⟨code, written, h⟩ := bind_eq_ok.mp h
  obtain ⟨description, _, h⟩ := bind_eq_ok.mp h
  obtain ⟨bodies, _, h⟩ := bind_eq_ok.mp h
  cases h
  exact Key.eq_display_of_asText written

theorem within_of_references {V : Vocabulary} {v : Value} (within : v.within V = true)
    {rs : List (String × Mapping)} (h : Facet.references v = .ok rs) :
    ∀ r ∈ rs, entriesWithin V r.2 = true := by
  intro r mem
  obtain ⟨lists, computed, rfl⟩ := map_eq_ok.mp h
  obtain ⟨list, listed, inside⟩ := List.mem_flatten.mp mem
  obtain ⟨item, held, read⟩ := exists_of_mem_mapM computed listed
  have own := Value.within_of_mem_asList within held
  cases item with
  | text name =>
    cases read
    obtain rfl := List.mem_singleton.mp inside
    rfl
  | map n =>
    obtain ⟨e, entry, named⟩ := exists_of_mem_mapM read inside
    obtain ⟨name, -, rfl⟩ := map_eq_ok.mp named
    exact Value.within_entries ((entriesWithin_iff.mp own).2 e entry).2
  | _ =>
    cases read
    cases inside

namespace Method

variable {scope : Scope} {params : Params} {traits : List TraitReference}
  {inherited : List (Option String)} {name : String} {v : Value} {m : Mapping} {method : Method}

/-! ## Sources -/

/-- What a method is made of: its own mapping, then those of its traits, filled in. -/
def sources (scope : Scope) (params : Params) (traits : List TraitReference) (name : String)
    (v : Value) : Except Fault (List Mapping) := do
  let own ← Facet.references (v.entries.get "is")
  let ts ← (traits ++ own).mapM (traitFilled scope params name)
  .ok (v.entries :: ts)

/-- The mappings that a method and its traits have under a facet, in order, as far as they count. -/
def said (scope : Scope) (params : Params) (traits : List TraitReference) (name : String)
    (v : Value) (facet : String) : Except Fault (List Mapping) :=
  (sources scope params traits name v).map (Mapping.under · facet)

theorem exists_sources
    (came : (ofDeclaration scope params traits inherited name v).outcome = .ok method) :
    ∃ ts, sources scope params traits name v = .ok ts ∧
      ofMapping scope name inherited (Mapping.completed ts) = .ok method := by
  obtain ⟨own, referred, -⟩ := Traced.outcome_bind_eq_ok.mp came
  rw [Traced.outcome_ofExcept] at referred
  rw [outcome_ofDeclaration referred] at came
  obtain ⟨m, applied, read⟩ := bind_eq_ok.mp came
  obtain ⟨ts, filled, rfl⟩ := map_eq_ok.mp applied
  refine ⟨v.entries :: ts, ?_, read⟩
  rw [sources, referred, ok_bind, filled]
  rfl

theorem within_sources (given : params.AreDistinct) (declared : v.within .any = true)
    (referred : ∀ r ∈ traits, entriesWithin .any r.2 = true) {ts : List Mapping}
    (h : sources scope params traits name v = .ok ts) :
    ∀ t ∈ ts, entriesWithin .any t = true := by
  have entries := Value.within_entries declared
  obtain ⟨own, read, h⟩ := bind_eq_ok.mp h
  obtain ⟨filled, each, h⟩ := bind_eq_ok.mp h
  cases h
  have all : ∀ r ∈ traits ++ own, entriesWithin .any r.2 = true := by
    intro r mem
    rcases List.mem_append.mp mem with outer | inner
    · exact referred r outer
    · exact within_of_references (Value.within_get entries "is") read r inner
  refine List.forall_mem_cons.mpr ⟨entries, fun t mem => ?_⟩
  obtain ⟨r, inside, came⟩ := exists_of_mem_mapM each mem
  exact within_traitFilled given (all r inside) came

/-- What is read below a facet of a method with its traits: each key that one of them has there,
once, with the value that prevails. -/
theorem exists_said (given : params.AreDistinct) (declared : v.within .any = true)
    (referred : ∀ r ∈ traits, entriesWithin .any r.2 = true) (facet : String)
    (came : (ofDeclaration scope params traits inherited name v).outcome = .ok method) :
    ∃ ts m, said scope params traits name v facet = .ok ts ∧
      ofMapping scope name inherited m = .ok method ∧
      (∀ t ∈ ts, t.Distinct) ∧
      (m.get facet).entries = (Mapping.keysOf ts).map fun k => (k, Mapping.valueOf ts k) := by
  obtain ⟨ts, sourced, read⟩ := exists_sources came
  have within := within_sources given declared referred sourced
  refine ⟨Mapping.under ts facet, Mapping.completed ts, ?_, read, fun t mem => ?_,
    Mapping.entries_get_completed within facet⟩
  · rw [said, sourced]
    rfl
  · exact distinct_of_within (Mapping.within_under within facet t mem)

/-- What a method takes from its completed mapping, part by part. -/
structure Read (scope : Scope) (m : Mapping) (method : Method) : Prop where
  queryParameters : Parameter.declared (m.get "queryParameters") = .ok method.queryParameters
  bodies : Body.all scope (m.get "body") = .ok method.bodies
  responses : (m.get "responses").entries.mapM (fun e => Response.ofDeclaration scope e.1 e.2) =
    .ok method.responses

theorem read_of_ofMapping (h : ofMapping scope name inherited m = .ok method) :
    Read scope m method := by
  obtain ⟨description, _, h⟩ := bind_eq_ok.mp h
  obtain ⟨own, _, h⟩ := bind_eq_ok.mp h
  obtain ⟨parameters, named, h⟩ := bind_eq_ok.mp h
  obtain ⟨bodies, bodied, h⟩ := bind_eq_ok.mp h
  obtain ⟨responses, coded, h⟩ := bind_eq_ok.mp h
  cases h
  refine ⟨?_, bodied, coded⟩
  obtain ⟨declared, read, rfl⟩ := map_eq_ok.mp named
  -- a method has no further variables
  rw [read, undeclared, List.map_nil, List.append_nil]

/-- The parts of a method that have names of their own are read one by one. -/
theorem parts_ofMapping (h : ofMapping scope name inherited m = .ok method) :
    Parameter.declared (m.get "queryParameters") = .ok method.queryParameters ∧
      (m.get "responses").entries.mapM (fun e => Response.ofDeclaration scope e.1 e.2) =
        .ok method.responses :=
  ⟨(read_of_ofMapping h).queryParameters, (read_of_ofMapping h).responses⟩

/-! ## Responses -/

/-- A method has one response for each key under which it or a trait declares one, and what the
method says of it comes first. The codes of the responses are distinct if and only if no two of
these keys are written alike, as is the case if they are texts. -/
theorem responses_of_said (given : params.AreDistinct) (declared : v.within .any = true)
    (referred : ∀ r ∈ traits, entriesWithin .any r.2 = true)
    (came : (ofDeclaration scope params traits inherited name v).outcome = .ok method) :
    ∃ ts, said scope params traits name v "responses" = .ok ts ∧
      (Mapping.keysOf ts).mapM
          (fun k => Response.ofDeclaration scope k (Mapping.valueOf ts k)) =
        .ok method.responses ∧
      ((method.responses.map (·.code)).Nodup ↔
        ∀ k ∈ Mapping.keysOf ts, ∀ l ∈ Mapping.keysOf ts, k.display = l.display → k = l) ∧
      ((∀ k ∈ Mapping.keysOf ts, ∃ s, k = .text s) → (method.responses.map (·.code)).Nodup) := by
  obtain ⟨ts, m, collected, read, distinct, entries⟩ :=
    exists_said given declared referred "responses" came
  obtain ⟨-, responses⟩ := parts_ofMapping read
  rw [entries, mapM_map_eq fun k _ => rfl] at responses
  have codes : method.responses.map (·.code) = (Mapping.keysOf ts).map Key.display :=
    map_eq_of_mapM responses fun k _ r own => Response.code_ofDeclaration own
  refine ⟨ts, collected, responses, ?_, ?_⟩
  · rw [codes]
    exact List.nodup_map_iff_inj_on (Mapping.nodup_keysOf distinct)
  · intro texts
    rw [codes]
    exact Mapping.nodup_display_of_texts distinct texts

/-- Two traits: responses of a code that is a parameter and of another one, and an optional query
parameter. -/
def partsScope : Scope where
  root := [(.text "traits", .record [
    ("coded", .record [("responses", .record [
      ("<<code>>", .record [("description", .text "of the trait")]),
      ("404", .record [("description", .text "missing")])])]),
    ("limited", .record [("queryParameters", .record [
      ("p?", .record [("minLength", .int 1)])])])])]
  libraries := []
  mediaType := "application/json"

/-- The parameters of the resource `/a`. -/
def partsParams : Params := [("resourcePath", .text "/a"), ("resourcePathName", .text "a")]

theorem areDistinct_partsParams : partsParams.AreDistinct := by
  simp [Params.AreDistinct, partsParams, Value.within, Vocabulary.any]

/-- A method with a response for the text 200 and the first trait, for a given code. -/
def codedMethod (code : Value) : Value :=
  .record [("responses", .record [("200", .record [("description", .text "of the method")])]),
    ("is", .list [.record [("coded", .record [("code", code)])]])]

/-- With the text 200 as its code, the response of the trait is the one of the method. -/
theorem responses_of_said_codedMethod :
    ∃ method,
      (ofDeclaration partsScope partsParams [] [] "get" (codedMethod (.text "200"))).outcome =
          .ok method ∧
        (method.responses.map fun r => (r.code, r.description)) =
          [("200", some "of the method"), ("404", some "missing")] ∧
        (method.responses.map (·.code)).Nodup := by
  have computed : (ofDeclaration partsScope partsParams [] [] "get"
      (codedMethod (.text "200"))).outcome.toOption.map
        (fun method => method.responses.map fun r => (r.code, r.description)) =
      some [("200", some "of the method"), ("404", some "missing")] := by
    decide +kernel
  obtain ⟨method, came, responses⟩ := exists_ok_of_toOption computed
  have keys : (said partsScope partsParams [] "get" (codedMethod (.text "200"))
      "responses").toOption.map Mapping.keysOf = some [.text "200", .text "404"] := by
    decide +kernel
  obtain ⟨ts, collected, texts⟩ := exists_ok_of_toOption keys
  obtain ⟨us, same, -, -, distinct⟩ :=
    responses_of_said areDistinct_partsParams (by decide +kernel) (by simp) came
  obtain rfl : ts = us := Except.ok.inj (collected.symm.trans same)
  refine ⟨method, came, responses, distinct fun k mem => ?_⟩
  rw [texts] at mem
  rcases List.mem_cons.mp mem with rfl | mem
  · exact ⟨"200", rfl⟩
  · exact ⟨"404", List.mem_singleton.mp mem⟩

/-- With the number 200 as its code, the response of the trait comes beside that of the method. -/
theorem responses_of_codedMethod_number :
    ∃ method,
      (ofDeclaration partsScope partsParams [] [] "get" (codedMethod (.int 200))).outcome =
          .ok method ∧
        (method.responses.map fun r => (r.code, r.description)) =
          [("200", some "of the method"), ("200", some "of the trait"), ("404", some "missing")] ∧
        ¬ (method.responses.map (·.code)).Nodup := by
  have computed : (ofDeclaration partsScope partsParams [] [] "get"
      (codedMethod (.int 200))).outcome.toOption.map
        (fun method => (method.responses.map fun r => (r.code, r.description),
          method.responses.map (·.code))) =
      some ([("200", some "of the method"), ("200", some "of the trait"), ("404", some "missing")],
        ["200", "200", "404"]) := by
    decide +kernel
  obtain ⟨method, came, told⟩ := exists_ok_of_toOption computed
  obtain ⟨responses, codes⟩ := Prod.mk.inj told
  refine ⟨method, came, responses, ?_⟩
  rw [codes]
  decide

/-! ## Query parameters -/

/-- A method has one query parameter for each key under which it or a trait declares one, and what
the method says of it comes first. The names of the parameters are distinct if and only if the keys
are written differently, which texts always are, and no name is among them with and without the
mark of optional parameters. -/
theorem queryParameters_of_said (given : params.AreDistinct) (declared : v.within .any = true)
    (referred : ∀ r ∈ traits, entriesWithin .any r.2 = true)
    (came : (ofDeclaration scope params traits inherited name v).outcome = .ok method) :
    ∃ ts, said scope params traits name v "queryParameters" = .ok ts ∧
      (Mapping.keysOf ts).mapM (fun k => Parameter.ofDeclaration k (Mapping.valueOf ts k)) =
        .ok method.queryParameters ∧
      ((method.queryParameters.map (·.name)).Nodup ↔
        ((Mapping.keysOf ts).map Key.display).Nodup ∧
          ∀ s ∈ (Mapping.keysOf ts).map Key.display,
            s ++ "?" ∈ (Mapping.keysOf ts).map Key.display → s.toList.getLast? = some '?') := by
  obtain ⟨ts, m, collected, read, distinct, entries⟩ :=
    exists_said given declared referred "queryParameters" came
  obtain ⟨parameters, -⟩ := parts_ofMapping read
  rw [Parameter.declared, entries, mapM_map_eq fun k _ => rfl] at parameters
  have names : method.queryParameters.map (·.name) =
      ((Mapping.keysOf ts).map Key.display).map Parameter.unmarked := by
    rw [List.map_map]
    exact map_eq_of_mapM parameters fun k _ p own => Parameter.name_eq_unmarked own
  refine ⟨ts, collected, parameters, ?_⟩
  rw [names]
  exact Parameter.nodup_unmarked_iff

/-- A method with a query parameter of a given name and the second trait. -/
def limitedMethod (key : String) : Value :=
  .record [("queryParameters", .record [
      (key, .record [("required", .bool true), ("description", .text "own")])]),
    ("is", .text "limited")]

/-- An optional parameter of the method is completed by the trait. -/
theorem queryParameters_of_said_limitedMethod :
    ∃ method,
      (ofDeclaration partsScope partsParams [] [] "get" (limitedMethod "p?")).outcome =
          .ok method ∧
        (method.queryParameters.map fun p => (p.name, p.description, p.minLength)) =
          [("p", some "own", some 1)] ∧
        (method.queryParameters.map (·.name)).Nodup := by
  have computed : (ofDeclaration partsScope partsParams [] [] "get"
      (limitedMethod "p?")).outcome.toOption.map
        (fun method => method.queryParameters.map fun p => (p.name, p.description, p.minLength)) =
      some [("p", some "own", some 1)] := by
    decide +kernel
  obtain ⟨method, came, parameters⟩ := exists_ok_of_toOption computed
  have keys : (said partsScope partsParams [] "get" (limitedMethod "p?")
      "queryParameters").toOption.map
        (fun ts => (Mapping.keysOf ts).map Key.display) = some ["p?"] := by
    decide +kernel
  obtain ⟨ts, collected, written⟩ := exists_ok_of_toOption keys
  obtain ⟨us, same, -, distinct⟩ :=
    queryParameters_of_said areDistinct_partsParams (by decide +kernel) (by simp) came
  obtain rfl : ts = us := Except.ok.inj (collected.symm.trans same)
  refine ⟨method, came, parameters, distinct.mpr ?_⟩
  rw [written]
  decide

/-- A parameter of the method without the mark comes beside that of the trait. -/
theorem queryParameters_of_limitedMethod_unmarked :
    ∃ method,
      (ofDeclaration partsScope partsParams [] [] "get" (limitedMethod "p")).outcome =
          .ok method ∧
        (method.queryParameters.map fun p => (p.name, p.description, p.minLength)) =
          [("p", some "own", none), ("p", none, some 1)] ∧
        ¬ (method.queryParameters.map (·.name)).Nodup := by
  have computed : (ofDeclaration partsScope partsParams [] [] "get"
      (limitedMethod "p")).outcome.toOption.map
        (fun method => (method.queryParameters.map fun p => (p.name, p.description, p.minLength),
          method.queryParameters.map (·.name))) =
      some ([("p", some "own", none), ("p", none, some 1)], ["p", "p"]) := by
    decide +kernel
  obtain ⟨method, came, told⟩ := exists_ok_of_toOption computed
  obtain ⟨parameters, names⟩ := Prod.mk.inj told
  refine ⟨method, came, parameters, ?_⟩
  rw [names]
  decide

end Method

end RamlDocs
