import RamlDocs.Proofs.Definition.Mentions

/-!
# Methods along a chain of types

Along a chain of types each definition is completed by those after it before it completes the next,
and not everything that is said of a method comes through: a marked value of a definition counts
only if the mapping one level up, be it the resource or a definition, has the method without a
mark, and where one definition comes to have both, only the later of the two counts.

`heard` lists the values that come through, nearest first, and the completed resource has the method
that they make when each is completed by the next (`Completion.get?_eq`). All that is said is heard
exactly where nothing gets in the way of a marked value (`heard_eq_declarations_iff`).
-/

namespace RamlDocs

open Template (Params literal)

namespace ResourceType

/-! ## What comes through -/

/-- The values that a definition has for a method, one list for each mention, if it is completed
by `further`: the value without a mark is completed, and if there is none, `further` comes last. -/
def sources (further : List Value) : List (Bool × Value) → List (Bool × List Value)
  | [] => if further.isEmpty then [] else [(false, further)]
  | (true, v) :: said => (true, [v]) :: sources further said
  | (false, v) :: said => (false, v :: further) :: said.map fun e => (e.1, [e.2])

/-- The values that a chain of definitions contributes to a method of a mapping, nearest first;
`has` says whether the mapping has the method. -/
def heard (name : String) : Bool → List Mapping → List Value
  | _, [] => []
  | has, d :: ds =>
    let said := mentions name d
    let further := heard name (d.has name) ds
    (counting has (sources further said)).getLast?.getD []

/-- All that a chain of definitions says of a method, marked or not, nearest first. -/
def declarations (name : String) (ds : List Mapping) : List Value :=
  ds.flatMap fun d => (mentions name d).map (·.2)

/-- Values made one, the nearer completed by the farther. -/
def united (vs : List Value) : Value := vs.foldr Value.completedBy .null

/-- Values made one; none for no values. -/
def united? (vs : List Value) : Option Value := if vs.isEmpty then none else some (united vs)

variable {scope : Scope} {params : Params} {name : String} {v w : Value} {m d : Mapping}

theorem counting_map {α β : Type} (f : α → β) (has : Bool) (said : List (Bool × α)) :
    counting has (said.map fun e => (e.1, f e.2)) = (counting has said).map f := by
  unfold counting
  rw [List.filter_map, List.map_map, List.map_map]
  rfl

/-- The lists of values of a definition, each made one, are what the definition says once it is
completed. -/
theorem map_sources (further : List Value) (said : List (Bool × Value)) :
    (sources further said).map (fun e => (e.1, united e.2)) = saidWith (united? further) said := by
  induction said with
  | nil =>
    cases further <;> simp [sources, united?, unmarked?, saidWith, say, Value.completedBy]
  | cons e said ih =>
    obtain ⟨_ | _, v⟩ := e
    · have alone : (fun e => (e.1, united e.2)) ∘ (fun e : Bool × Value => (e.1, [e.2])) = id := by
        funext e
        simp [united, Value.completedBy_null]
      rw [sources, List.map_cons, List.map_map, alone, List.map_id]
      cases further <;> simp [united, united?, Value.completedBy_null, unmarked?, saidWith, say]
    · rw [sources, List.map_cons, ih]
      cases further <;> simp [united, united?, Value.completedBy_null, unmarked?, saidWith, say]

/-- The values of one mention are its own alone, its own and then what comes from farther on, or
the latter alone. -/
theorem cases_of_mem_sources {further : List Value} {said : List (Bool × Value)}
    {e : Bool × List Value} (h : e ∈ sources further said) :
    (∃ f ∈ said, e.2 = [f.2]) ∨ (∃ f ∈ said, e.2 = f.2 :: further) ∨
      (further ≠ [] ∧ e.2 = further) := by
  induction said with
  | nil =>
    unfold sources at h
    cases further with
    | nil => cases h
    | cons v vs =>
      rw [List.mem_singleton.mp h]
      exact .inr (.inr ⟨List.cons_ne_nil v vs, rfl⟩)
  | cons f said ih =>
    obtain ⟨_ | _, v⟩ := f
    · rcases List.mem_cons.mp h with rfl | mem
      · exact .inr (.inl ⟨_, List.mem_cons_self, rfl⟩)
      · obtain ⟨f, held, rfl⟩ := List.mem_map.mp mem
        exact .inl ⟨f, List.mem_cons_of_mem _ held, rfl⟩
    · rcases List.mem_cons.mp h with rfl | mem
      · exact .inl ⟨_, List.mem_cons_self, rfl⟩
      · rcases ih mem with ⟨f, held, own⟩ | ⟨f, held, completed⟩ | inherited
        · exact .inl ⟨f, List.mem_cons_of_mem _ held, own⟩
        · exact .inr (.inl ⟨f, List.mem_cons_of_mem _ held, completed⟩)
        · exact .inr (.inr inherited)

theorem ne_nil_of_mem_sources {further : List Value} {said : List (Bool × Value)}
    {e : Bool × List Value} (h : e ∈ sources further said) : e.2 ≠ [] := by
  rcases cases_of_mem_sources h with ⟨f, -, own⟩ | ⟨f, -, completed⟩ | ⟨some_, inherited⟩
  · rw [own]
    exact List.cons_ne_nil _ _
  · rw [completed]
    exact List.cons_ne_nil _ _
  · rwa [inherited]

/-- What a definition says of a method once it is completed: what it says itself, each value made
one with those that come through from the definitions after it. -/
def Heard (d : Mapping) (ds : List Mapping) (definition : Mapping) : Prop :=
  ∀ name ∈ httpMethods, mentions name definition =
    (sources (heard name (d.has name) ds) (mentions name d)).map fun e => (e.1, united e.2)

theorem find?_contribution {ds : List Mapping} {definition applied : Mapping}
    (h : contribution m [] definition = .ok applied)
    (within : entriesWithin literal definition = true) (said : Heard d ds definition)
    (method : name ∈ httpMethods) :
    applied.find? (.text name) = united? (heard name (m.has name) (d :: ds)) := by
  rw [find?_contribution_eq_last h within method, said name method, counting_map united,
    List.getLast?_map, Mapping.find?_nil, Option.or_none, heard]
  cases latest : (counting (m.has name)
      (sources (heard name (d.has name) ds) (mentions name d))).getLast? with
  | none => rfl
  | some vs =>
    obtain ⟨e, mem, rfl⟩ := List.mem_map.mp (List.mem_of_getLast? latest)
    have some_ := ne_nil_of_mem_sources (List.mem_filter.mp mem).1
    simp [united?, some_]

/-- What comes through to a definition is what `heard` lists, at every level of the chain. -/
theorem Completion.heard_definition {ds : List Mapping} {definition : Mapping}
    (h : Completion ds d definition) (within : ∀ e ∈ d :: ds, entriesWithin literal e = true) :
    entriesWithin literal definition = true ∧ Heard d ds definition := by
  induction h with
  | bare d =>
    refine ⟨within d List.mem_cons_self, fun name _ => ?_⟩
    rw [heard, map_sources]
    rfl
  | @step d m definition applied ds inner contributes ih =>
    obtain ⟨own, others⟩ := List.forall_mem_cons.mp within
    obtain ⟨literal_, said⟩ := ih others
    have kept := (yields_contribution verbatim_literal rfl literal_).of_eq_ok contributes
    have unmarked := unmarked_contribution contributes (by simp)
    refine ⟨entriesWithin_complete verbatim_literal own kept, fun name method => ?_⟩
    rw [mentions_complete method (distinct_of_within kept) fun e mem => unmarked e mem name,
      find?_contribution contributes literal_ said method, map_sources]

/-- A method of the resource is what its own value and those that come through along the chain
make together. -/
theorem Completion.get?_eq {ds : List Mapping} {result : Mapping} {own : Value}
    (h : Completion ds m result) (within : ∀ d ∈ ds, entriesWithin literal d = true)
    (method : name ∈ httpMethods) (declared : m.get? name = some own) :
    result.get? name = some (united (own :: heard name true ds)) := by
  cases h with
  | bare => simpa [heard, united, Value.completedBy_null] using declared
  | @step d _ definition applied ds inner contributes =>
    obtain ⟨literal_, said⟩ := inner.heard_definition within
    have kept := (yields_contribution verbatim_literal rfl literal_).of_eq_ok contributes
    have unmarked := unmarked_contribution contributes (by simp)
    have has : m.has name = true := by simp [Mapping.has, declared]
    have brought := find?_contribution contributes literal_ said method
    rw [Mapping.get?, ← unmarked?_mentions method,
      mentions_complete method (distinct_of_within kept) fun e mem => unmarked e mem name, brought,
      has, united, List.foldr_cons, ← united]
    have held : unmarked? (mentions name m) = some own :=
      (unmarked?_mentions method m).trans declared
    cases heard name true (d :: ds) with
    | nil => simp [united?, united, saidWith, held, Value.completedBy_null]
    | cons v vs => simp [united?, saidWith, unmarked?_say, held]

/-! ## What is said and what is heard -/

theorem sublist_of_mem_sources {further : List Value} {said : List (Bool × Value)}
    {e : Bool × List Value} (h : e ∈ sources further said) :
    e.2.Sublist (said.map (·.2) ++ further) := by
  rcases cases_of_mem_sources h with ⟨f, mem, own⟩ | ⟨f, mem, completed⟩ | ⟨-, inherited⟩
  · rw [own]
    exact List.singleton_sublist.mpr (List.mem_append_left _ (List.mem_map_of_mem mem))
  · rw [completed, ← List.singleton_append]
    exact (List.singleton_sublist.mpr (List.mem_map_of_mem mem)).append (List.Sublist.refl _)
  · rw [inherited]
    exact List.sublist_append_right _ _

theorem length_le_of_mem_sources {further : List Value} {said : List (Bool × Value)}
    {e : Bool × List Value} (h : e ∈ sources further said) : e.2.length ≤ further.length + 1 := by
  rcases cases_of_mem_sources h with ⟨f, -, own⟩ | ⟨f, -, completed⟩ | ⟨-, inherited⟩
  · rw [own]
    exact Nat.le_add_left 1 _
  · rw [completed, List.length_cons]
  · rw [inherited]
    exact Nat.le_succ _

theorem declarations_cons (name : String) (d : Mapping) (ds : List Mapping) :
    declarations name (d :: ds) = (mentions name d).map (·.2) ++ declarations name ds :=
  List.flatMap_cons

/-- Of a definition, the values of one mention are heard, or nothing. -/
theorem cases_of_heard_cons (name : String) (has : Bool) (d : Mapping) (ds : List Mapping) :
    heard name has (d :: ds) = [] ∨
      ∃ e ∈ sources (heard name (d.has name) ds) (mentions name d),
        heard name has (d :: ds) = e.2 := by
  rw [heard]
  cases latest : (counting has
      (sources (heard name (d.has name) ds) (mentions name d))).getLast? with
  | none => exact .inl rfl
  | some vs =>
    obtain ⟨e, mem, rfl⟩ := List.mem_map.mp (List.mem_of_getLast? latest)
    exact .inr ⟨e, (List.mem_filter.mp mem).1, rfl⟩

/-- Nothing is heard but what is said, and in that order. -/
theorem heard_sublist (name : String) (has : Bool) (ds : List Mapping) :
    (heard name has ds).Sublist (declarations name ds) := by
  induction ds generalizing has with
  | nil => exact List.Sublist.refl _
  | cons d ds ih =>
    rw [declarations_cons]
    rcases cases_of_heard_cons name has d ds with nothing | ⟨e, mem, same⟩
    · rw [nothing]
      exact List.nil_sublist _
    · rw [same]
      exact (sublist_of_mem_sources mem).trans ((List.Sublist.refl _).append (ih _))

/-- Nothing gets in the way of a marked value: the mapping one level up has the method without a
mark, and neither its own definition nor one after it says anything else of the method. -/
inductive Undisturbed (name : String) : Bool → List Mapping → Prop
  | nil {has : Bool} : Undisturbed name has []
  | silent {has : Bool} {d : Mapping} {ds : List Mapping} (said : mentions name d = [])
      (rest : Undisturbed name false ds) : Undisturbed name has (d :: ds)
  | unmarked {has : Bool} {d : Mapping} {ds : List Mapping} {v : Value}
      (said : mentions name d = [(false, v)]) (rest : Undisturbed name true ds) :
      Undisturbed name has (d :: ds)
  | marked {d : Mapping} {ds : List Mapping} {v : Value} (said : mentions name d = [(true, v)])
      (last : declarations name ds = []) : Undisturbed name true (d :: ds)

theorem has_eq_isSome (method : name ∈ httpMethods) (d : Mapping) :
    d.has name = (unmarked? (mentions name d)).isSome := by
  rw [unmarked?_mentions method]
  rfl

theorem Undisturbed.heard_eq {has : Bool} {ds : List Mapping} (method : name ∈ httpMethods)
    (h : Undisturbed name has ds) : heard name has ds = declarations name ds := by
  induction h with
  | nil => rfl
  | @silent has d ds said rest ih =>
    have absent : d.has name = false := by rw [has_eq_isSome method, said]; rfl
    rw [heard, absent, ih, declarations_cons, said, List.map_nil, List.nil_append]
    cases declarations name ds <;> simp [sources, counting]
  | @unmarked has d ds v said rest ih =>
    have present : d.has name = true := by rw [has_eq_isSome method, said]; rfl
    rw [heard, present, ih, declarations_cons, said]
    simp [sources, counting]
  | @marked d ds v said last =>
    have absent : d.has name = false := by rw [has_eq_isSome method, said]; rfl
    have nothing : heard name false ds = [] :=
      List.sublist_nil.mp (last ▸ heard_sublist name false ds)
    rw [heard, absent, nothing, declarations_cons, said, last]
    simp [sources, counting]

/-- At most one value is heard of a definition itself. -/
theorem length_heard_cons_le (name : String) (has : Bool) (d : Mapping) (ds : List Mapping) :
    (heard name has (d :: ds)).length ≤ (declarations name ds).length + 1 := by
  have farther := (heard_sublist name (d.has name) ds).length_le
  rcases cases_of_heard_cons name has d ds with nothing | ⟨e, mem, same⟩
  · rw [nothing]
    exact Nat.zero_le _
  · rw [same]
    exact Nat.le_trans (length_le_of_mem_sources mem) (Nat.add_le_add_right farther 1)

/-- All that is said of a method is heard exactly where nothing gets in the way of a mark. -/
theorem heard_eq_declarations_iff {has : Bool} {ds : List Mapping} (method : name ∈ httpMethods) :
    heard name has ds = declarations name ds ↔ Undisturbed name has ds := by
  refine ⟨fun h => ?_, Undisturbed.heard_eq method⟩
  induction ds generalizing has with
  | nil => exact .nil
  | cons d ds ih =>
    have short := length_heard_cons_le name has d ds
    rw [h, declarations_cons, List.length_append, List.length_map] at short
    rw [heard, declarations_cons, has_eq_isSome method] at h
    match said : mentions name d with
    | [] =>
      rw [said] at h
      change (counting has (sources (heard name false ds) [])).getLast?.getD [] = _ at h
      refine .silent said (ih (Eq.trans ?_ h))
      cases heard name false ds <;> simp [sources, counting]
    | [(false, v)] =>
      rw [said] at h
      have same : v :: heard name true ds = v :: declarations name ds := by
        simpa [sources, counting, unmarked?] using h
      exact .unmarked said (ih (List.cons.inj same).2)
    | [(true, v)] =>
      have farther := (heard_sublist name false ds).length_le
      rw [said] at h
      change (counting has (sources (heard name false ds) [(true, v)])).getLast?.getD [] = _ at h
      cases inherited : heard name false ds with
      | nil =>
        rw [inherited] at h
        cases has with
        | true => exact .marked said (by simpa [sources, counting] using h.symm)
        | false => simp [sources, counting] at h
      | cons u us =>
        -- what the definition inherits takes the place of its own marked value
        rw [inherited] at h farther
        have same : u :: us = v :: declarations name ds := by simpa [sources, counting] using h
        rw [same, List.length_cons] at farther
        exact absurd farther (Nat.not_succ_le_self _)
    | _ :: _ :: _ =>
      -- only one of the mentions counts, so less is heard than is said
      rw [said] at short
      simp only [List.length_cons] at short
      omega

/-! ## Facets -/

theorem within_of_mem_declarations {V : Vocabulary} {ds : List Mapping}
    (within : ∀ d ∈ ds, entriesWithin V d = true) (h : v ∈ declarations name ds) :
    v.within V = true := by
  obtain ⟨d, mem, said⟩ := List.mem_flatMap.mp h
  obtain ⟨e, mention, rfl⟩ := List.mem_map.mp said
  obtain ⟨⟨k, w⟩, held, hk⟩ := List.mem_filterMap.mp mention
  obtain ⟨marked, -, rfl⟩ := Option.map_eq_some_iff.mp hk
  exact ((entriesWithin_iff.mp (within d mem)).2 _ held).2

theorem within_united {V : Vocabulary} {vs : List Value} (h : ∀ v ∈ vs, v.within V = true) :
    (united vs).within V = true := by
  induction vs with
  | nil => exact Value.within_null
  | cons v vs ih =>
    obtain ⟨own, rest⟩ := List.forall_mem_cons.mp h
    exact Value.within_completedBy _ own (ih rest)

/-- A value that has no say on a facet: null, or a mapping in which the facet is missing or null. -/
def Silent (f : Key) (v : Value) : Prop :=
  (v = .null ∨ v.isMap = true) ∧ (v.entries.find? f).getD .null = .null

theorem find?_completedBy_of_silent {f : Key} {u : Value} {x : Value} (silent : Silent f u)
    (distinct : w.entries.Distinct) (found : w.entries.find? f = some x) :
    (u.completedBy w).entries.find? f = some x := by
  obtain ⟨rfl | map, missing⟩ := silent
  · simpa [Value.completedBy] using found
  · cases w with
    | map n =>
      cases u with
      | map m =>
        have merged := Mapping.find?_merge distinct m f
        simp only [Value.entries] at missing found merged
        rw [found, missing] at merged
        simpa [Value.completedBy, Value.entries] using merged
      | _ => cases map
    | _ => cases found

theorem find?_completedBy_of_given {f : Key} {x : Value} (given : v.entries.find? f = some x)
    (settled : x.Settled) (w : Value) : (v.completedBy w).entries.find? f = some x := by
  have held : v.at? [f] = some x := by simp [Value.at?, given]
  have stays := Value.at?_completedBy settled w held
  obtain ⟨y, found, same⟩ := Option.bind_eq_some_iff.mp stays
  rw [found, ← same]
  rfl

/-- Of values that are made one, the first that gives a facet decides it, if it settles it. -/
theorem find?_united {V : Vocabulary} {f : Key} {x : Value} {before after : List Value}
    (within : ∀ u ∈ (before ++ v :: after).tail, u.within V = true)
    (silent : ∀ u ∈ before, Silent f u) (given : v.entries.find? f = some x)
    (settled : x.Settled) : (united (before ++ v :: after)).entries.find? f = some x := by
  induction before with
  | nil => exact find?_completedBy_of_given given settled _
  | cons u before ih =>
    obtain ⟨own, rest⟩ := List.forall_mem_cons.mp silent
    refine find?_completedBy_of_silent own ?_ (ih (fun e mem => within e ?_) rest)
    · exact distinct_of_within (Value.within_entries (within_united within))
    · exact List.mem_of_mem_tail mem

/-- A method that a resource declares has each facet as the first of its own value and those that
are heard has it that gives it at all. -/
theorem Completion.facet_eq {ds : List Mapping} {result : Mapping} {own x : Value} {f : Key}
    {before after : List Value} (h : Completion ds m result)
    (plain : ∀ d ∈ ds, entriesWithin literal d = true) (method : name ∈ httpMethods)
    (declared : m.get? name = some own)
    (order : own :: heard name true ds = before ++ v :: after)
    (silent : ∀ u ∈ before, Silent f u) (given : v.entries.find? f = some x)
    (settled : x.Settled) : (Value.map result).at? [.text name, f] = some x := by
  have made := h.get?_eq plain method declared
  rw [order] at made
  have within : ∀ u ∈ (before ++ v :: after).tail, u.within literal = true := by
    rw [← order]
    exact fun u mem => within_of_mem_declarations plain ((heard_sublist name true ds).subset mem)
  have found := find?_united within silent given settled
  unfold Value.at?
  refine Option.bind_eq_some_iff.mpr ⟨_, made, ?_⟩
  unfold Value.at?
  rw [found]
  rfl

/-- A method that a resource declares has each facet that its chain of types says something of, as
the nearest of the resource and the definitions has it that gives it at all; marked values count as
well, as long as nothing gets in their way. -/
theorem facet_of_apply {type : Option String} {ds : List Mapping} {result : Mapping} {own x : Value}
    {f : Key} {before after : List Value}
    (h : (apply scope params chainLimit m).outcome = .ok (type, result))
    (followed : chain scope params chainLimit m = .ok ds)
    (plain : ∀ d ∈ ds, entriesWithin literal d = true)
    (method : name ∈ httpMethods) (declared : m.get? name = some own)
    (undisturbed : Undisturbed name true ds)
    (order : own :: declarations name ds = before ++ v :: after)
    (silent : ∀ u ∈ before, Silent f u) (given : v.entries.find? f = some x)
    (settled : x.Settled) : (Value.map result).at? [.text name, f] = some x := by
  obtain ⟨_, same, completion⟩ := completion_of_apply h
  cases followed.symm.trans same
  rw [← undisturbed.heard_eq method] at order
  exact completion.facet_eq plain method declared order silent given settled

/-- A type with a marked method, and the given type as one that may inherit from it. -/
def markedScope (item : Value) : Scope where
  root := [(.text "resourceTypes", .record [
    ("base", .record [("get?", .record [("description", .text "List")])]),
    ("item", item)])]
  libraries := []
  mediaType := "application/json"

/-- A type that has the method, and one that has not. -/
def withGet : Mapping := [(.text "type", .text "base"), (.text "get", .record [])]
def withoutGet : Mapping := [(.text "type", .text "base")]

/-- A resource that says nothing of its method but that it has it. -/
def itemWithGet : Mapping := [(.text "type", .text "item"), (.text "get", .null)]

theorem facet_of_itemWithGet :
    ∃ type result,
      (apply (markedScope (.map withGet)) [] chainLimit itemWithGet).outcome = .ok (type, result) ∧
      (Value.map result).at? [.text "get", .text "description"] = some (.text "List") := by
  have applies : (apply (markedScope (.map withGet)) [] chainLimit itemWithGet).outcome.toOption.map
      (fun _ => true) = some true := by decide +kernel
  obtain ⟨⟨type, result⟩, applied, -⟩ := exists_ok_of_toOption applies
  have followed : chain (markedScope (.map withGet)) [] chainLimit itemWithGet =
      .ok [withGet, [(.text "get?", .record [("description", .text "List")])]] := rfl
  have silent : ∀ u ∈ [Value.null, .record []], Silent (.text "description") u :=
    List.forall_mem_cons.mpr ⟨⟨.inl rfl, rfl⟩, List.forall_mem_singleton.mpr ⟨.inr rfl, rfl⟩⟩
  exact ⟨type, result, applied, facet_of_apply applied followed (by decide) (by decide) rfl
    (.unmarked rfl (.marked rfl rfl)) rfl silent rfl ⟨by simp, rfl⟩⟩

/-- The marked method of a type does not come through to the resource by way of a type that has not
the method itself: what its definition says of the method is lost. -/
theorem description_lost :
    ∃ type result ds,
      (apply (markedScope (.map withoutGet)) [] chainLimit itemWithGet).outcome =
        .ok (type, result) ∧
      chain (markedScope (.map withoutGet)) [] chainLimit itemWithGet = .ok ds ∧
      declarations "get" ds = [.record [("description", .text "List")]] ∧
      (Value.map result).at? [.text "get", .text "description"] = none := by
  have applies : (apply (markedScope (.map withoutGet)) [] chainLimit
      itemWithGet).outcome.toOption.map (fun completed =>
        ((Value.map completed.2).at? [.text "get", .text "description"]).isNone) = some true := by
    decide +kernel
  obtain ⟨⟨type, result⟩, applied, lost⟩ := exists_ok_of_toOption applies
  exact ⟨type, result, _, applied, rfl, rfl, Option.isNone_iff_eq_none.mp lost⟩

end ResourceType

end RamlDocs
