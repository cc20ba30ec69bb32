import RamlDocs.Proofs.Definition.UriPath
import RamlDocs.View.Document

/-!
# The base URI of a view

A view writes the version where the base URI has the variable `version`. Replacing is done on the
text, from left to right, and knows nothing of variables; but in a template that closes each brace
before it opens another one, the text of a variable occurs exactly where the variable does, and a
version without an opening brace begins no variable. What is left are the variables of the base URI
without `version`, in order (`variableNamesFrom_replaceFrom`), and each of them is named by a
parameter that the view shows (`Api.variableNames_shownBaseUri`).

The proviso on braces is needed: with a version `1`, `{a{version}}` becomes `{a1}`, a variable that
the base URI did not have.
-/

namespace RamlDocs

/-! ## Replacing -/

namespace Text

variable {first : Char} {old new : List Char}

/-- The characters of an occurrence that was just replaced are dropped. -/
theorem replaceFrom_length_append (as bs : List Char) :
    replaceFrom old new as.length (as ++ bs) = replaceFrom old new 0 bs := by
  induction as with
  | nil => rfl
  | cons a as ih => exact ih

theorem replaceFrom_occurrence (rest : List Char) :
    replaceFrom (first :: old) new 0 (first :: old ++ rest) =
      new ++ replaceFrom (first :: old) new 0 rest := by
  have begins : (first :: old).isPrefixOf (first :: (old ++ rest)) = true :=
    List.isPrefixOf_iff_prefix.mpr (List.prefix_append _ rest)
  rw [List.cons_append, replaceFrom, if_pos begins]
  exact congrArg (new ++ ·) (replaceFrom_length_append old rest)

/-- A text is passed over up to where the text to replace may begin. -/
theorem replaceFrom_append_of_not_mem {as : List Char} (absent : first ∉ as) (rest : List Char) :
    replaceFrom (first :: old) new 0 (as ++ rest) =
      as ++ replaceFrom (first :: old) new 0 rest := by
  induction as with
  | nil => rfl
  | cons c as ih =>
    rw [List.mem_cons, not_or] at absent
    rw [List.cons_append, replaceFrom, if_neg (by simp [absent.1]), ih absent.2, List.cons_append]

end Text

/-! ## Templates that close their braces -/

namespace Uri

/-- Every brace that a template opens is closed before it opens another one. -/
def Closed (template : List Char) : Prop :=
  ∀ before after, template = before ++ '{' :: after →
    ∃ name rest, after = name ++ '}' :: rest ∧ '{' ∉ name ∧ '}' ∉ name

variable {name other new : List Char}

theorem Closed.of_append (as : List Char) {bs : List Char} (closed : Closed (as ++ bs)) :
    Closed bs := by
  intro before after text
  exact closed (as ++ before) after (by rw [text, List.append_assoc])

/-- An opening brace is closed if the first brace behind it closes. -/
theorem closed_cons_iff {c : Char} {cs : List Char} :
    Closed (c :: cs) ↔
      (c = '{' → cs.find? (fun d => d == '{' || d == '}') = some '}') ∧ Closed cs := by
  constructor
  · intro closed
    refine ⟨?_, closed.of_append [c]⟩
    rintro rfl
    obtain ⟨name, rest, rfl, noOpen, noClose⟩ := closed [] cs rfl
    refine List.find?_eq_some_iff_append.mpr ⟨rfl, name, rest, rfl, ?_⟩
    intro d mem
    have others : d ≠ '{' ∧ d ≠ '}' :=
      ⟨fun same => noOpen (same ▸ mem), fun same => noClose (same ▸ mem)⟩
    simp [others]
  · rintro ⟨own, later⟩ before after text
    cases before with
    | nil =>
      obtain ⟨rfl, rfl⟩ := List.cons.inj text
      obtain ⟨-, name, rest, rfl, others⟩ := List.find?_eq_some_iff_append.mp (own rfl)
      exact ⟨name, rest, rfl, fun mem => absurd (others _ mem) (by decide),
        fun mem => absurd (others _ mem) (by decide)⟩
    | cons b before => exact later before after (List.cons.inj text).2

instance decidableClosed : DecidablePred Closed
  | [] => .isTrue fun before after text => by cases before <;> cases text
  | _ :: cs =>
    have := decidableClosed cs
    decidable_of_iff _ closed_cons_iff.symm

/-- A name ends at the first closing brace behind it. -/
theorem takeWhile_append_close {as : List Char} (noClose : '}' ∉ as) (bs : List Char) :
    (as ++ '}' :: bs).takeWhile (· != '}') = as := by
  have stays : ∀ c ∈ as, (c != '}') = true := by
    intro c mem
    exact bne_iff_ne.mpr fun same => noClose (same ▸ mem)
  rw [List.takeWhile_append_of_pos stays, List.takeWhile_cons_of_neg (by decide), List.append_nil]

/-- The text of one variable does not begin where another variable stands. -/
theorem isPrefixOf_braced {rest : List Char} (noClose : '}' ∉ name) (noClose' : '}' ∉ other)
    (apart : other ≠ name) :
    ('{' :: (name ++ ['}'])).isPrefixOf ('{' :: (other ++ '}' :: rest)) = false := by
  refine Bool.eq_false_iff.mpr fun begins => apart ?_
  obtain ⟨more, text⟩ := (List.cons_prefix_cons.mp (List.isPrefixOf_iff_prefix.mp begins)).2
  rw [List.append_assoc, List.singleton_append] at text
  rw [← takeWhile_append_close noClose' rest, ← text, takeWhile_append_close noClose]

/-- What stands between two braces is a variable if it is not empty and holds no slash. -/
theorem variableNamesFrom_braced (noOpen : '{' ∉ name) (noClose : '}' ∉ name)
    (rest : List Char) :
    variableNamesFrom none ('{' :: (name ++ '}' :: rest)) =
      (if name = [] ∨ '/' ∈ name then [] else [name]) ++ variableNamesFrom none rest := by
  have plain : ∀ as : List Char, '{' ∉ as → '}' ∉ as → '/' ∉ as →
      ∀ c ∈ as, isNameChar c = true := by
    intro as noOpen noClose noSlash c mem
    have others : c ≠ '{' ∧ c ≠ '}' ∧ c ≠ '/' :=
      ⟨fun same => noOpen (same ▸ mem), fun same => noClose (same ▸ mem),
        fun same => noSlash (same ▸ mem)⟩
    simp [isNameChar, others]
  by_cases slash : '/' ∈ name
  · -- at the first slash the brace is given up, and what follows it opens none
    obtain ⟨before, after, rfl, first⟩ := List.eq_append_cons_of_mem slash
    rw [List.mem_append, List.mem_cons, not_or, not_or] at noOpen noClose
    have later : variableNamesFrom none (after ++ '}' :: rest) = variableNamesFrom none rest := by
      rw [variableNamesFrom_none_append noOpen.2.2, variableNamesFrom, if_neg (by decide)]
    rw [List.append_assoc, variableNamesFrom_open (plain before noOpen.1 noClose.1 first),
      List.cons_append, variableNamesFrom, if_neg (by decide), if_pos (by decide), later,
      if_pos (.inr slash)]
    rfl
  · rw [variableNamesFrom_open (plain name noOpen noClose slash)]
    cases name with
    | nil => rfl
    | cons c name => simp [variableNamesFrom, slash]

/-- To replace a variable by a text that opens no brace takes the variable out of a template that
closes its braces, and leaves the others. -/
theorem variableNamesFrom_replaceFrom (noOpen : '{' ∉ name) (noClose : '}' ∉ name)
    (fresh : '{' ∉ new) (template : List Char) (closed : Closed template) :
    variableNamesFrom none (Text.replaceFrom ('{' :: (name ++ ['}'])) new 0 template) =
      (variableNamesFrom none template).filter (· != name) := by
  by_cases opens : '{' ∈ template
  · -- up to the first brace nothing changes; what it opens is the variable or another one
    obtain ⟨before, after, rfl, first⟩ := List.eq_append_cons_of_mem opens
    obtain ⟨other, rest, rfl, noOpen', noClose'⟩ := closed before after rfl
    have shorter : rest.length < (before ++ '{' :: (other ++ '}' :: rest)).length := by
      simp only [List.length_append, List.length_cons]
      omega
    have closedRest : Closed rest := by
      refine Closed.of_append (before ++ '{' :: (other ++ ['}'])) ?_
      simpa using closed
    have ih := variableNamesFrom_replaceFrom noOpen noClose fresh rest closedRest
    rw [Text.replaceFrom_append_of_not_mem first, variableNamesFrom_none_append first,
      variableNamesFrom_none_append first, variableNamesFrom_braced noOpen' noClose',
      List.filter_append, ← ih]
    by_cases same : other = name
    · subst same
      have occurs : '{' :: (other ++ '}' :: rest) = '{' :: (other ++ ['}']) ++ rest := by simp
      have own : (if other = [] ∨ '/' ∈ other then [] else [other]).filter (· != other) = [] := by
        split <;> simp
      rw [occurs, Text.replaceFrom_occurrence, variableNamesFrom_none_append fresh, own]
      rfl
    · have own : (if other = [] ∨ '/' ∈ other then [] else [other]).filter (· != name) =
          if other = [] ∨ '/' ∈ other then [] else [other] := by
        split <;> simp [same]
      have text : other ++ '}' :: rest = other ++ ['}'] ++ rest := by simp
      have behind : '{' ∉ other ++ ['}'] := by simp [noOpen']
      rw [Text.replaceFrom, if_neg (by simp [isPrefixOf_braced noClose noClose' same]), own, text,
        Text.replaceFrom_append_of_not_mem behind, List.append_assoc, List.singleton_append,
        variableNamesFrom_braced noOpen' noClose']
  · have none_ : variableNamesFrom none template = [] := by
      simpa [variableNamesFrom] using variableNamesFrom_none_append opens []
    have kept : Text.replaceFrom ('{' :: (name ++ ['}'])) new 0 template = template := by
      simpa [Text.replaceFrom] using Text.replaceFrom_append_of_not_mem opens []
    rw [kept, none_, List.filter_nil]
termination_by template.length

/-- The text of the variable `version` is that of the variable with any name, at `version`. -/
theorem variableNames_replaced {uri version : String} (plain : '{' ∉ version.toList)
    (closed : Closed uri.toList) :
    variableNames (Text.replaced uri ({} : Settings).versionPlaceholder version) =
      (variableNames uri).filter (· != "version") := by
  have each : ((· != "version") ∘ String.ofList) = (· != "version".toList) := by
    funext cs
    rw [Function.comp_apply, Bool.eq_iff_iff, bne_iff_ne, bne_iff_ne, not_iff_not]
    constructor
    · intro same
      rw [← same, String.toList_ofList]
    · intro same
      rw [same, String.ofList_toList]
  have left : variableNamesFrom none
      (Text.replaceFrom ('{' :: ("version".toList ++ ['}'])) version.toList 0 uri.toList) =
        (variableNamesFrom none uri.toList).filter (· != "version".toList) :=
    variableNamesFrom_replaceFrom (by decide) (by decide) plain uri.toList closed
  show ((variableNamesFrom none (String.ofList
    (Text.replaceFrom ('{' :: ("version".toList ++ ['}'])) version.toList 0 uri.toList)).toList).map
      String.ofList) = _
  rw [String.toList_ofList, left, variableNames, List.filter_map, each]

example : variableNames (Text.replaced "\x7ba\x7bversion\x7d\x7d" "\x7bversion\x7d" "1") =
    ["a1"] := by decide +kernel

end Uri

/-! ## The view -/

/-- A view with a version shows the base URI with the version in it; an empty one stays empty. -/
theorem Api.shownBaseUri_of_version {api : Api} {version : String}
    (versioned : api.version = some version) :
    api.shownBaseUri ({} : Settings).versionPlaceholder =
      Text.replaced (api.baseUri.getD "") ({} : Settings).versionPlaceholder version := by
  have empty : Text.replaced "" ({} : Settings).versionPlaceholder version = "" := rfl
  unfold Api.shownBaseUri
  rw [versioned]
  cases given : api.baseUri with
  | none => exact empty.symm
  | some uri =>
    show (if uri == "" then "" else _) = _
    split
    next none_ => rw [Option.getD_some, beq_iff_eq.mp none_, empty]
    next => rfl

/-- In the base URI of a view, the version stands for the variable of that name. If the base URI
closes each brace before it opens another one and the version opens none, then what is left are the
other variables, in order and as often as they occur; and each of them is named by one of the
parameters that the view shows. -/
theorem Api.variableNames_shownBaseUri {files : Files.Entry} {base : Files.Path} {root : Mapping}
    {api : Api} {version : String} (came : (Api.ofRoot files base root).outcome = .ok api)
    (versioned : api.version = some version) (plain : '{' ∉ version.toList)
    (closed : Uri.Closed (api.baseUri.getD "").toList) :
    Uri.variableNames (api.shownBaseUri ({} : Settings).versionPlaceholder) =
        (Uri.variableNames (api.baseUri.getD "")).filter (· != "version") ∧
      ∀ name ∈ Uri.variableNames (api.shownBaseUri ({} : Settings).versionPlaceholder),
        ∃ p ∈ api.baseUriParameters, p.name = name ∧ p.name ≠ "version" ∧
          p.raw ∈ api.shownBaseUriParameters := by
  have left : Uri.variableNames (api.shownBaseUri ({} : Settings).versionPlaceholder) =
      (Uri.variableNames (api.baseUri.getD "")).filter (· != "version") := by
    rw [Api.shownBaseUri_of_version versioned, Uri.variableNames_replaced plain closed]
  refine ⟨left, ?_⟩
  intro name mem
  rw [left, List.mem_filter, bne_iff_ne] at mem
  obtain ⟨used, scope, uri, declared, bare, parts, rfl⟩ := Api.ofRoot_eq_ok_iff.mp came
  have framed := Api.framed_of_frame parts.frame
  have named : name ∈ bare.baseUriParameters.map (·.name) :=
    Parameter.mem_names_all framed.baseUriParameters (framed.baseUri ▸ mem.1)
  obtain ⟨p, own, rfl⟩ := List.mem_map.mp named
  have kept : p ∈ bare.baseUriParameters.filter (·.name != "version") :=
    List.mem_filter.mpr ⟨own, bne_iff_ne.mpr mem.2⟩
  exact ⟨p, own, rfl, mem.2, List.mem_map_of_mem kept⟩

/-- A base URI that names the version twice, with a variable that is declared and one that is
not. -/
def regionalRoot : Mapping :=
  [("version", .text "v1"),
    ("baseUri", .text ("https://\x7bversion\x7d.\x7bregion\x7d.example/" ++
      "\x7ba/b\x7d/\x7bversion\x7d/\x7btenant\x7d")),
    ("baseUriParameters", .record [("region", .null), ("version", .null)])].map
      fun e => (.text e.1, e.2)

theorem variableNames_shownBaseUri_regionalRoot :
    ∃ api, (Api.ofRoot (.dir []) ⟨[]⟩ regionalRoot).outcome = .ok api ∧
      Uri.variableNames (api.baseUri.getD "") = ["version", "region", "version", "tenant"] ∧
      Uri.variableNames (api.shownBaseUri ({} : Settings).versionPlaceholder) =
        ["region", "tenant"] ∧
      ∀ name ∈ Uri.variableNames (api.shownBaseUri ({} : Settings).versionPlaceholder),
        ∃ p ∈ api.baseUriParameters, p.name = name ∧ p.name ≠ "version" ∧
          p.raw ∈ api.shownBaseUriParameters := by
  have shown : (Api.ofRoot (.dir []) ⟨[]⟩ regionalRoot).outcome.toOption.map (fun api =>
      (api.version, decide (Uri.Closed (api.baseUri.getD "").toList),
        Uri.variableNames (api.baseUri.getD ""))) =
      some (some "v1", true, ["version", "region", "version", "tenant"]) := by
    decide +kernel
  obtain ⟨api, came, facts⟩ := exists_ok_of_toOption shown
  obtain ⟨versioned, facts⟩ := Prod.mk.inj facts
  obtain ⟨closed, names⟩ := Prod.mk.inj facts
  obtain ⟨left, each⟩ :=
    Api.variableNames_shownBaseUri came versioned (by decide) (of_decide_eq_true closed)
  exact ⟨api, came, names, by rw [left, names]; decide, each⟩

end RamlDocs
