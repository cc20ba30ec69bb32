import Mathlib.Data.List.Basic
import RamlDocs.Command.Run
import RamlDocs.Proofs.Outcome

/-!
# Command lines with an option less

Each argument of the view command stands for one option at most, by itself or with the argument
behind it. So the target of the view can be left out of a command line, however it is spelled and
however often it is given, and the rest asks for the same view (`exists_asked_unsaved`).
-/

namespace RamlDocs.Command

/-! ## One argument -/

/-- Whether an option says where the view is saved. -/
def BuildOption.isOutput : BuildOption → Bool
  | .output _ => true
  | _ => false

namespace Options

/-- What is found in one argument of the view command: no option, an option, or the name of one that
has its value still to come, which is the target or the spaces of a level. -/
inductive FindsOne : Found BuildOption → Prop
  | nothing : FindsOne ([], none)
  | option (o : BuildOption) : FindsOne ([o], none)
  | waiting (name : String) {f : String → BuildOption} (kind : f = .output ∨ f = .indent) :
    FindsOne ([], some (name, f))

/-- An option of the view command without a value has no name of one letter. -/
theorem cases_of_lookup {name : String} {t : Taking BuildOption}
    (h : buildOptions.lookup name = some t) :
    (∃ o, t = .flag o ∧ name.toList.length ≠ 2) ∨
      ∃ f, t = .value f ∧ (f = .output ∨ f = .indent) := by
  obtain ⟨before, after, split_, -⟩ := List.lookup_eq_some_iff.mp h
  have mem : (name, t) ∈ buildOptions := by
    rw [split_]
    exact List.mem_append_right before List.mem_cons_self
  simp only [buildOptions, List.mem_cons, List.not_mem_nil, or_false, Prod.mk.injEq] at mem
  rcases mem with ⟨-, rfl⟩ | ⟨-, rfl⟩ | ⟨rfl, rfl⟩ | ⟨rfl, rfl⟩ | ⟨-, rfl⟩
  · exact .inr ⟨_, rfl, .inl rfl⟩
  · exact .inr ⟨_, rfl, .inl rfl⟩
  · exact .inl ⟨_, rfl, by decide⟩
  · exact .inl ⟨_, rfl, by decide⟩
  · exact .inr ⟨_, rfl, .inr rfl⟩

theorem findsOne_letters {cs : List Char} {r : Found BuildOption}
    (h : buildOptions.letters cs = .ok r) : FindsOne r := by
  cases cs with
  | nil =>
    cases h
    exact .nothing
  | cons c cs =>
    unfold letters at h
    simp only at h
    cases known : buildOptions.lookup (String.ofList ['-', c]) with
    | none =>
      rw [known] at h
      cases h
    | some t =>
      rw [known] at h
      obtain ⟨o, -, long⟩ | ⟨f, rfl, kind⟩ := cases_of_lookup known
      · exact absurd (by simp) long
      · simp only at h
        split at h <;> cases h
        · exact .waiting _ kind
        · exact .option _

theorem findsOne_word {cs : List Char} {r : Found BuildOption}
    (h : buildOptions.word cs = .ok r) : FindsOne r := by
  unfold word at h
  simp only at h
  cases known : buildOptions.lookup (String.ofList (cs.takeWhile (· != '='))) with
  | none =>
    rw [known] at h
    cases h
  | some t =>
    rw [known] at h
    obtain ⟨o, rfl, -⟩ | ⟨f, rfl, kind⟩ := cases_of_lookup known
    · cases value : cs.dropWhile (· != '=') <;> rw [value] at h <;> cases h
      exact .option _
    · cases value : cs.dropWhile (· != '=') <;> rw [value] at h <;> cases h
      · exact .waiting _ kind
      · exact .option _

theorem findsOne_argument {cs : List Char} {r : Found BuildOption}
    (h : buildOptions.argument cs = .ok r) : FindsOne r := by
  unfold argument at h
  split at h
  · exact findsOne_word h
  · exact findsOne_letters h

/-! ## All arguments -/

variable {α : Type} {options : Options α} {mixed : Bool}

/-- Whether an argument is looked at for options. -/
def isMarked (a : String) : Bool := a.length != 1 && a.toList.head? == some '-'

/-- How a command line is read: one argument after the other, where the one behind an option that
waits for its value is that value. -/
inductive Reads (options : Options α) (mixed : Bool) :
    Option (String × (String → α)) → List String → List α × List String → Prop
  | nil : Reads options mixed none [] ([], [])
  | value (name : String) (f : String → α) (a : String) {as rest : List String} {found : List α}
    (others : Reads options mixed none as (found, rest)) :
    Reads options mixed (some (name, f)) (a :: as) (f a :: found, rest)
  | stop (as : List String) : Reads options mixed none ("--" :: as) ([], as)
  | marked {a : String} (go : a ≠ "--") (marked : isMarked a = true) {own more : List α}
    {waiting : Option (String × (String → α))}
    (argument : options.argument a.toList = .ok (own, waiting)) {as rest : List String}
    (others : Reads options mixed waiting as (more, rest)) :
    Reads options mixed none (a :: as) (own ++ more, rest)
  | between {a : String} (go : a ≠ "--") (plain : isMarked a = false) (mixes : mixed = true)
    {as rest : List String} {found : List α} (others : Reads options mixed none as (found, rest)) :
    Reads options mixed none (a :: as) (found, a :: rest)
  | ends {a : String} (go : a ≠ "--") (plain : isMarked a = false) (mixes : mixed = false)
    (as : List String) : Reads options mixed none (a :: as) ([], a :: as)

theorem read_cons_of_ne {a : String} (go : a ≠ "--") (as : List String) :
    options.read mixed none (a :: as) =
      if isMarked a then
        options.argument a.toList >>= fun r =>
          (options.read mixed r.2 as).map fun s => (r.1 ++ s.1, s.2)
      else if mixed then (options.read mixed none as).map fun s => (s.1, a :: s.2)
      else .ok ([], a :: as) := by
  rw [read]
  simp only [beq_eq_false_iff_ne.mpr go, Bool.false_eq_true, if_false]
  rfl

theorem read_eq_ok_iff {waiting : Option (String × (String → α))} {as : List String}
    {r : List α × List String} :
    options.read mixed waiting as = .ok r ↔ Reads options mixed waiting as r := by
  constructor
  · intro h
    induction as generalizing waiting r with
    | nil =>
      cases waiting with
      | none =>
        cases h
        exact .nil
      | some w => cases h
    | cons a as ih =>
      cases waiting with
      | some w =>
        obtain ⟨⟨found, rest⟩, others, rfl⟩ := map_eq_ok.mp h
        exact .value _ _ _ (ih others)
      | none =>
        by_cases go : a = "--"
        · subst go
          cases h
          exact .stop as
        · rw [read_cons_of_ne go] at h
          split at h
          next marked =>
            obtain ⟨⟨own, waiting⟩, argument, h⟩ := bind_eq_ok.mp h
            obtain ⟨⟨more, rest⟩, others, rfl⟩ := map_eq_ok.mp h
            exact .marked go marked argument (ih others)
          next plain =>
            have plain : isMarked a = false := Bool.eq_false_iff.mpr plain
            split at h
            next mixes =>
              obtain ⟨⟨found, rest⟩, others, rfl⟩ := map_eq_ok.mp h
              exact .between go plain mixes (ih others)
            next mixes =>
              cases h
              exact .ends go plain (Bool.eq_false_iff.mpr mixes) as
  · intro h
    induction h with
    | nil => rfl
    | value name f a others ih => rw [read, ih]; rfl
    | stop as => rfl
    | marked go marked argument others ih =>
      rw [read_cons_of_ne go, if_pos marked, argument, ok_bind, ih]
      rfl
    | between go plain mixes others ih =>
      rw [read_cons_of_ne go, plain, if_neg Bool.false_ne_true, if_pos mixes, ih]
      rfl
    | ends go plain mixes as =>
      rw [read_cons_of_ne go, plain, if_neg Bool.false_ne_true, mixes, if_neg Bool.false_ne_true]

/-- What is left of a command line where the options end can be exchanged, but for its first
argument. -/
theorem Reads.exists_of_rest {waiting : Option (String × (String → α))} {as : List String}
    {r : List α × List String} (h : Reads options false waiting as r) {name : String}
    {rest : List String} (left : r.2 = name :: rest) (rest' : List String) :
    ∃ as', Reads options false waiting as' (r.1, name :: rest') := by
  induction h with
  | nil => cases left
  | value n f a others ih =>
    obtain ⟨as', read⟩ := ih left
    exact ⟨a :: as', .value n f a read⟩
  | stop as => exact ⟨"--" :: name :: rest', .stop _⟩
  | marked go marked argument others ih =>
    obtain ⟨as', read⟩ := ih left
    exact ⟨_ :: as', .marked go marked argument read⟩
  | between go plain mixes => cases mixes
  | ends go plain mixes as =>
    cases left
    exact ⟨name :: rest', .ends go plain rfl rest'⟩

/-- The options of the view command without its targets are those of another command line. An
argument that stands for a target by itself is left out, and so is one that waits for it, with the
argument behind it. -/
theorem Reads.exists_unsaved {waiting : Option (String × (String → BuildOption))}
    {as : List String} {r : List BuildOption × List String}
    (h : Reads buildOptions true waiting as r) :
    ((waiting = none ∨ ∃ name, waiting = some (name, .output)) →
      ∃ as', Reads buildOptions true none as' (r.1.filter (!·.isOutput), r.2)) ∧
    ∀ name, waiting = some (name, .indent) →
      ∃ as', Reads buildOptions true waiting as' (r.1.filter (!·.isOutput), r.2) := by
  -- an option that waits goes or stays with its value, so what waits is part of the induction
  induction h with
  | nil => exact ⟨fun _ => ⟨[], .nil⟩, fun name same => by cases same⟩
  | value n f a others ih =>
    obtain ⟨as', read⟩ := ih.1 (.inl rfl)
    constructor
    · rintro (same | ⟨name, same⟩)
      · cases same
      · cases same
        exact ⟨as', read⟩
    · intro name same
      cases same
      exact ⟨a :: as', .value _ _ a read⟩
  | stop as => exact ⟨fun _ => ⟨"--" :: as, .stop as⟩, fun name same => by cases same⟩
  | @marked a go marked own more waiting argument as rest others ih =>
    refine ⟨fun _ => ?_, fun name same => by cases same⟩
    rw [List.filter_append]
    cases findsOne_argument argument with
    | nothing =>
      obtain ⟨as', read⟩ := ih.1 (.inl rfl)
      exact ⟨a :: as', .marked go marked argument read⟩
    | option o =>
      obtain ⟨as', read⟩ := ih.1 (.inl rfl)
      cases target : o.isOutput with
      | true => exact ⟨as', by simpa [target] using read⟩
      | false => exact ⟨a :: as', by simpa [target] using Reads.marked go marked argument read⟩
    | waiting name kind =>
      obtain rfl | rfl := kind
      · exact ih.1 (.inr ⟨name, rfl⟩)
      · obtain ⟨as', read⟩ := ih.2 name rfl
        exact ⟨a :: as', .marked go marked argument read⟩
  | @between a go plain mixes as rest found others ih =>
    refine ⟨fun _ => ?_, fun name same => by cases same⟩
    obtain ⟨as', read⟩ := ih.1 (.inl rfl)
    exact ⟨a :: as', .between go plain rfl read⟩
  | ends go plain mixes as => cases mixes

end Options

/-! ## The view command -/

/-- What the last option says is the same where options that say nothing of the kind are left
out. -/
theorem lastSaid_unsaved {α : Type} (say : BuildOption → Option α)
    (silent : ∀ path, say (.output path) = none) (found : List BuildOption) :
    lastSaid say (found.filter (!·.isOutput)) = lastSaid say found := by
  unfold lastSaid
  rw [← List.filter_reverse]
  induction found.reverse with
  | nil => rfl
  | cons o found ih =>
    rw [List.filter_cons, List.findSome?_cons, ← ih]
    cases o with
    | output path =>
      rw [silent path]
      rfl
    | _ => exact List.findSome?_cons

theorem lastSaid_output_unsaved (found : List BuildOption) :
    lastSaid BuildOption.output? (found.filter (!·.isOutput)) = none := by
  refine List.findSome?_eq_none_iff.mpr fun o mem => ?_
  have kept := (List.mem_filter.mp (List.mem_reverse.mp mem)).2
  cases o with
  | output path => cases kept
  | _ => rfl

variable {check : String → Except Misuse Unit}

theorem exists_readBuild_unsaved {arguments : List String} {path : String}
    {output : Option String} {markdown : Option Bool} {indent : Int}
    (h : readBuild check arguments = .ok (.build path output markdown indent)) :
    ∃ arguments', readBuild check arguments' = .ok (.build path none markdown indent) := by
  obtain ⟨⟨found, rest⟩, read, h⟩ := bind_eq_ok.mp h
  obtain ⟨n, said, h⟩ := bind_eq_ok.mp h
  obtain ⟨p, one, h⟩ := bind_eq_ok.mp h
  cases h
  obtain ⟨arguments', read'⟩ := (Options.read_eq_ok_iff.mp read).exists_unsaved.1 (.inl rfl)
  refine ⟨arguments', ?_⟩
  have spaces := lastSaid_unsaved BuildOption.indent? (fun _ => rfl) found
  have rendered := lastSaid_unsaved BuildOption.markdown? (fun _ => rfl) found
  have said' : indentSaid (found.filter (!·.isOutput)) = .ok indent := by
    rw [← said, indentSaid, spaces, indentSaid]
  rw [readBuild, Options.read_eq_ok_iff.mpr read', ok_bind]
  simp only [said', one, ok_bind, lastSaid_output_unsaved, rendered]

theorem exists_readCommand_unsaved {name : String} {arguments : List String} {path : String}
    {output : Option String} {markdown : Option Bool} {indent : Int}
    (h : readCommand check (name :: arguments) = .ok (.build path output markdown indent)) :
    ∃ arguments',
      readCommand check (name :: arguments') = .ok (.build path none markdown indent) := by
  rw [readCommand] at h
  simp only [readCommand]
  split at h
  next view =>
    simp only [view, if_true]
    exact exists_readBuild_unsaved h
  next =>
    split at h
    · obtain ⟨r, _, h⟩ := bind_eq_ok.mp h
      obtain ⟨p, _, h⟩ := bind_eq_ok.mp h
      cases h
    · obtain ⟨r, _, h⟩ := bind_eq_ok.mp h
      cases h

/-- A command line that says where a view is saved has one that asks for the same view and does not
say so. -/
theorem exists_asked_unsaved {files : Files.Entry} {arguments : List String} {verbosity : Nat}
    {path : String} {output : Option String} {markdown : Option Bool} {indent : Int}
    (h : asked files arguments = .ok (verbosity, .build path output markdown indent)) :
    ∃ arguments', asked files arguments' = .ok (verbosity, .build path none markdown indent) := by
  obtain ⟨⟨count, rest⟩, common, h⟩ := bind_eq_ok.mp h
  obtain ⟨invocation, command, h⟩ := bind_eq_ok.mp h
  cases h
  obtain ⟨⟨found, left⟩, read, same⟩ := map_eq_ok.mp common
  cases same
  cases rest with
  | nil => cases command
  | cons name rest =>
    obtain ⟨rest', command'⟩ := exists_readCommand_unsaved command
    obtain ⟨arguments', read'⟩ := (Options.read_eq_ok_iff.mp read).exists_of_rest rfl rest'
    refine ⟨arguments', ?_⟩
    have common' : readCommon arguments' = .ok (found.length, name :: rest') := by
      rw [readCommon, Options.read_eq_ok_iff.mpr read']
      rfl
    rw [asked, common', ok_bind]
    simp only [command', ok_bind]

end RamlDocs.Command
