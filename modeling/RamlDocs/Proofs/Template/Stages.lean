import RamlDocs.Proofs.Template.Literal
import RamlDocs.Proofs.Template.Transform
import RamlDocs.Proofs.Value.Every

/-!
# Filling in two stages

A resource type is filled in twice: with the parameters of the resource first, and with the name of
a method later. The two stages come to the same as one with all parameters (`fill_in_stages`), if
what is put in is plain text and the templates hold no opening bracket outside of placeholders.

In a text, the first stage replaces some placeholders by characters and leaves the others as they
stand. The pieces that this makes are the pieces that the second stage finds
(`parse_filledText`), so that stages on pieces can be joined one by one
(`Piece.filled_append`). A text is taken whole in the second stage if and only if it is taken whole
in one (`wholeValue?_filledText`): a placeholder that is replaced leaves a letter or a digit, so a
text that has become one placeholder between blanks was one before.
-/

namespace RamlDocs.Template

open Text (isBlank)

variable {P Q params : Params} {cs : List Char} {p q : Placeholder} {piece : Piece}

/-! ## Parameters -/

/-- Whether a value is an ASCII text without opening brackets that has two letters or digits. -/
def isPlainText : Value → Bool
  | .text s =>
    (s.toList.all fun c => c.toNat < 0x80 && c != '<') && 2 ≤ s.toList.countP Char.isAlphanum
  | _ => false

/-- All parameters are plain texts. -/
def Params.ArePlain (params : Params) : Prop := ∀ p ∈ params, isPlainText p.2 = true

/-- What a placeholder puts in for a text. -/
def Placeholder.shown (p : Placeholder) (cs : List Char) : List Char :=
  match p.transform with
  | none => cs
  | some t => Template.transform (String.ofList t) cs

theorem solid_shown (plain : ∀ c ∈ cs, IsPlainChar c) (letters : 2 ≤ cs.countP Char.isAlphanum)
    (p : Placeholder) : Solid (p.shown cs) := by
  unfold Placeholder.shown
  split
  · exact ⟨plain, List.countP_pos_iff.mp (by omega)⟩
  · exact solid_transform plain letters _

theorem Params.ArePlain.exists_text (given : params.ArePlain) {name : String} {v : Value}
    (h : params.lookup name = some v) :
    ∃ s, v = .text s ∧ (∀ c ∈ s.toList, IsPlainChar c) ∧
      ∀ p : Placeholder, Solid (p.shown s.toList) := by
  have own := given (name, v) (Params.mem_of_lookup h)
  cases v with
  | text s =>
    simp only [isPlainText, Bool.and_eq_true, List.all_eq_true, decide_eq_true_eq,
      bne_iff_ne] at own
    exact ⟨s, rfl, own.1, solid_shown own.1 own.2⟩
  | _ => cases own

theorem Params.ArePlain.left (given : (P ++ Q).ArePlain) : P.ArePlain :=
  fun p mem => given p (List.mem_append_left Q mem)

theorem Params.ArePlain.right (given : (P ++ Q).ArePlain) : Q.ArePlain :=
  fun p mem => given p (List.mem_append_right P mem)

/-! ## Pieces -/

/-- What stands for a piece when it is filled in: the characters that are put in, or the piece
itself. -/
def Piece.filled (params : Params) : Piece → List Piece
  | .char c => [.char c]
  | .hole p =>
    match params.lookup (String.ofList p.name) with
    | some (.text s) => (p.shown s.toList).map .char
    | _ => [.hole p]

/-- The text of a template with its placeholders filled in one by one. -/
def filledText (params : Params) (cs : List Char) : List Char :=
  ((parse cs).flatMap (Piece.filled params)).flatMap Piece.source

theorem Piece.filled_of_unknown (unknown : params.lookup (String.ofList p.name) = none) :
    (Piece.hole p).filled params = [.hole p] := by
  rw [filled, unknown]

theorem Piece.filled_of_known {s : String}
    (known : params.lookup (String.ofList p.name) = some (.text s)) :
    (Piece.hole p).filled params = (p.shown s.toList).map .char := by
  rw [filled, known]

theorem Piece.fill_eq (given : params.ArePlain) (piece : Piece) :
    piece.fill params = .ok ((piece.filled params).flatMap Piece.source) := by
  cases piece with
  | char c => rfl
  | hole p =>
    cases known : params.lookup (String.ofList p.name) with
    | none =>
      rw [filled_of_unknown known, fill, known]
      simp [Piece.source]
    | some v =>
      obtain ⟨s, rfl, -⟩ := given.exists_text known
      rw [filled_of_known known, fill, known, flatMap_source_map_char]
      rfl

/-- Filling a piece in with some parameters and then with others is filling it in with all. -/
theorem Piece.filled_append (given : P.ArePlain) (piece : Piece) :
    (piece.filled P).flatMap (filled Q) = piece.filled (P ++ Q) := by
  cases piece with
  | char c => rfl
  | hole p =>
    cases known : P.lookup (String.ofList p.name) with
    | none =>
      have other : (P ++ Q).lookup (String.ofList p.name) = Q.lookup (String.ofList p.name) := by
        rw [List.lookup_append, known, Option.none_or]
      rw [filled_of_unknown known, List.flatMap_singleton, filled, filled, other]
    | some v =>
      obtain ⟨s, rfl, -⟩ := given.exists_text known
      have same : (P ++ Q).lookup (String.ofList p.name) = some (.text s) := by
        rw [List.lookup_append, known, Option.some_or]
      rw [filled_of_known known, filled_of_known same, List.flatMap_map]
      exact List.map_eq_flatMap.symm

/-! ## Brackets outside of placeholders -/

/-- Whether a piece is no opening bracket by itself. -/
def Piece.isEnclosed : Piece → Bool
  | .char c => c != '<'
  | .hole _ => true

/-- Whether opening brackets stand in placeholders only. -/
def isEnclosed (cs : List Char) : Bool := (parse cs).all Piece.isEnclosed

theorem sound_of_isEnclosed (h : isEnclosed cs = true) : ∀ piece ∈ parse cs, piece.Sound := by
  intro piece mem
  have own := List.all_eq_true.mp h piece mem
  cases piece with
  | char c => exact bne_iff_ne.mp own
  | hole p => exact (flatMap_source_parse cs).2 p mem

theorem Piece.Sound.filled (given : params.ArePlain) (sound : piece.Sound) :
    ∀ q ∈ piece.filled params, q.Sound := by
  cases piece with
  | char c => exact List.forall_mem_singleton.mpr sound
  | hole p =>
    cases known : params.lookup (String.ofList p.name) with
    | none =>
      rw [filled_of_unknown known]
      exact List.forall_mem_singleton.mpr sound
    | some v =>
      obtain ⟨s, rfl, -, solid⟩ := given.exists_text known
      rw [filled_of_known known, List.forall_mem_map]
      exact fun c mem => ((solid p).plain c mem).2

/-- The pieces of a filled text are what stands for the pieces of the template. -/
theorem parse_filledText (given : params.ArePlain) (h : isEnclosed cs = true) :
    parse (filledText params cs) = (parse cs).flatMap (Piece.filled params) := by
  refine parse_flatMap_source fun q mem => ?_
  obtain ⟨piece, inside, stands⟩ := List.mem_flatMap.mp mem
  exact (sound_of_isEnclosed h piece inside).filled given q stands

theorem filledText_filledText (given : P.ArePlain) (h : isEnclosed cs = true) :
    filledText Q (filledText P cs) = filledText (P ++ Q) cs := by
  have joined : ((parse cs).flatMap (Piece.filled P)).flatMap (Piece.filled Q) =
      (parse cs).flatMap (Piece.filled (P ++ Q)) := by
    rw [List.flatMap_assoc]
    exact congrArg (List.flatMap · (parse cs)) (funext (Piece.filled_append given))
  rw [filledText, parse_filledText given h, joined]
  rfl

/-! ## Texts that are taken whole -/

theorem flatMap_filled_of_unknown {ps : List Piece}
    (unknown : ∀ p, .hole p ∈ ps → params.lookup (String.ofList p.name) = none) :
    ps.flatMap (Piece.filled params) = ps := by
  induction ps with
  | nil => rfl
  | cons piece ps ih =>
    rw [List.flatMap_cons, ih fun p mem => unknown p (List.mem_cons_of_mem _ mem)]
    cases piece with
    | char c => rfl
    | hole p =>
      rw [Piece.filled_of_unknown (unknown p List.mem_cons_self)]
      rfl

/-- Where no placeholder of a text is known, nothing changes. -/
theorem filledText_of_unknown
    (unknown : ∀ p, .hole p ∈ parse cs → params.lookup (String.ofList p.name) = none) :
    filledText params cs = cs := by
  rw [filledText, flatMap_filled_of_unknown unknown, (flatMap_source_parse cs).1]

/-- A text that has come to be one placeholder had no placeholder replaced: a letter or a digit
would be left of it. -/
theorem unknown_of_whole?_filledText (given : P.ArePlain) (enclosed : isEnclosed cs = true)
    (h : whole? (filledText P cs) = some q) (p : Placeholder) (mem : .hole p ∈ parse cs) :
    P.lookup (String.ofList p.name) = none := by
  cases known : P.lookup (String.ofList p.name) with
  | none => rfl
  | some v =>
    obtain ⟨s, rfl, -, solid⟩ := given.exists_text known
    obtain ⟨c, inside, letter⟩ := (solid p).letter
    have stands : .char c ∈ parse (filledText P cs) := by
      rw [parse_filledText given enclosed]
      refine List.mem_flatMap.mpr ⟨.hole p, mem, ?_⟩
      rw [Piece.filled_of_known known]
      exact List.mem_map_of_mem inside
    have solidChar := isSeparator_of_isAlphanum ((solid p).ascii c inside) letter
    rcases (pieces_of_whole? h).2 _ stands with other | ⟨d, same, blank⟩
    · cases other
    · cases same
      simp [isSeparator, blank] at solidChar

/-- A text that the first stage does not take whole is taken whole by the second if and only if it
is by both in one. -/
theorem wholeValue?_filledText (given : P.ArePlain) (enclosed : isEnclosed cs = true)
    (open_ : wholeValue? P cs = none) :
    wholeValue? Q (filledText P cs) = wholeValue? (P ++ Q) cs := by
  by_cases unknown : ∀ p, .hole p ∈ parse cs → P.lookup (String.ofList p.name) = none
  · rw [filledText_of_unknown unknown]
    refine Option.ext fun v => ?_
    rw [wholeValue?_eq_some_iff, wholeValue?_eq_some_iff]
    refine exists_congr fun p => and_congr_right fun whole => and_congr_right fun _ => ?_
    rw [List.lookup_append, unknown p (pieces_of_whole? whole).1, Option.none_or]
  · have left : ∀ v, wholeValue? Q (filledText P cs) ≠ some v := by
      intro v taken
      obtain ⟨q, whole, -⟩ := wholeValue?_eq_some_iff.mp taken
      exact unknown (unknown_of_whole?_filledText given enclosed whole)
    have right : ∀ v, wholeValue? (P ++ Q) cs ≠ some v := by
      intro v taken
      obtain ⟨q, whole, bare, -⟩ := wholeValue?_eq_some_iff.mp taken
      refine unknown fun p mem => ?_
      -- the only placeholder is the whole text, which the first stage does not know
      have only : p = q := by
        rcases (pieces_of_whole? whole).2 _ mem with same | ⟨c, other, -⟩
        · exact Piece.hole.inj same
        · cases other
      cases known : P.lookup (String.ofList p.name) with
      | none => rfl
      | some w =>
        have found := wholeValue?_eq_some_iff.mpr ⟨q, whole, bare, only ▸ known⟩
        rw [open_] at found
        cases found
    rw [Option.eq_none_iff_forall_ne_some.mpr left, Option.eq_none_iff_forall_ne_some.mpr right]

/-! ## Texts -/

/-- A text with its placeholders filled in by plain texts. -/
def filled (params : Params) (cs : List Char) : List Char :=
  match wholeValue? params cs with
  | some (.text s) => s.toList
  | _ => filledText params cs

theorem filled_of_open (open_ : wholeValue? params cs = none) :
    filled params cs = filledText params cs := by
  rw [filled, open_]

theorem filled_of_taken {s : String} (taken : wholeValue? params cs = some (.text s)) :
    filled params cs = s.toList := by
  rw [filled, taken]

theorem exists_text_of_wholeValue? (given : params.ArePlain) {v : Value}
    (h : wholeValue? params cs = some v) :
    ∃ s, v = .text s ∧ ∀ c ∈ s.toList, c ≠ '<' := by
  obtain ⟨p, -, -, found⟩ := wholeValue?_eq_some_iff.mp h
  obtain ⟨s, text, plain, -⟩ := given.exists_text found
  exact ⟨s, text, fun c mem => (plain c mem).2⟩

theorem fillText_eq (given : params.ArePlain) (s : String) :
    fillText params s = .ok (.text (String.ofList (filled params s.toList))) := by
  unfold fillText
  cases taken : wholeValue? params s.toList with
  | none =>
    have each : (parse s.toList).mapM (Piece.fill params) =
        .ok ((parse s.toList).map fun piece => (piece.filled params).flatMap Piece.source) := by
      rw [mapM_eq_ok_iff, List.forall₂_map_right_iff, List.forall₂_same]
      exact fun piece _ => piece.fill_eq given
    rw [each, filled_of_open taken, filledText, List.flatMap_assoc, List.flatMap_def]
    rfl
  | some v =>
    obtain ⟨t, rfl, -⟩ := exists_text_of_wholeValue? given taken
    rw [filled_of_taken taken, String.ofList_toList]

/-- A text without opening brackets stays as it is. -/
theorem filled_of_bracketless (free : ∀ c ∈ cs, c ≠ '<') : filled params cs = cs := by
  have sound : ∀ piece ∈ cs.map Piece.char, piece.Sound := by
    rw [List.forall_mem_map]
    exact free
  have chars : parse cs = cs.map .char := by
    have found := parse_flatMap_source sound
    rwa [flatMap_source_map_char] at found
  have none_ : ∀ p, .hole p ∉ parse cs := by
    intro p mem
    rw [chars] at mem
    obtain ⟨c, -, same⟩ := List.mem_map.mp mem
    cases same
  have open_ : wholeValue? params cs = none := by
    refine Option.eq_none_iff_forall_ne_some.mpr fun v taken => ?_
    obtain ⟨p, whole, -⟩ := wholeValue?_eq_some_iff.mp taken
    exact none_ p (pieces_of_whole? whole).1
  rw [filled_of_open open_, filledText_of_unknown fun p mem => absurd mem (none_ p)]

/-- Two stages come to the same text as one. -/
theorem filled_filled (given : (P ++ Q).ArePlain) (enclosed : isEnclosed cs = true) :
    filled Q (filled P cs) = filled (P ++ Q) cs := by
  cases taken : wholeValue? P cs with
  | none =>
    rw [filled_of_open taken, filled, filled, wholeValue?_filledText given.left enclosed taken,
      filledText_filledText given.left enclosed]
  | some v =>
    obtain ⟨s, rfl, free⟩ := exists_text_of_wholeValue? given.left taken
    have both : wholeValue? (P ++ Q) cs = some (.text s) := by
      obtain ⟨p, whole, bare, found⟩ := wholeValue?_eq_some_iff.mp taken
      refine wholeValue?_eq_some_iff.mpr ⟨p, whole, bare, ?_⟩
      rw [List.lookup_append, found, Option.some_or]
    rw [filled_of_taken taken, filled_of_taken both, filled_of_bracketless free]

theorem fillText_in_stages (given : (P ++ Q).ArePlain) {s : String}
    (enclosed : isEnclosed s.toList = true) :
    ∃ t u, fillText P s = .ok (.text t) ∧ fillText Q t = .ok (.text u) ∧
      fillText (P ++ Q) s = .ok (.text u) := by
  have second := fillText_eq given.right (String.ofList (filled P s.toList))
  rw [String.toList_ofList, filled_filled given enclosed] at second
  exact ⟨_, _, fillText_eq given.left s, second, fillText_eq given s⟩

/-! ## Keys and entries -/

/-- The key that a key comes to be when it is filled in. -/
def keyAfter? (params : Params) (k : Key) : Option Key := (fillKey params k >>= toKey).toOption

/-- Whether opening brackets stand in placeholders only in a key. -/
def isEnclosedKey : Key → Bool
  | .text s => isEnclosed s.toList
  | _ => true

/-- Whether the keys of a mapping hold no bracket outside of placeholders, and no two of them become
the same when they are filled in. -/
def isTidy (params : Params) (m : Mapping) : Bool :=
  (m.all fun e => isEnclosedKey e.1) &&
    decide ((m.filterMap fun e => keyAfter? params e.1).Pairwise fun k l => k.same l = false)

theorem fillKey_in_stages (given : (P ++ Q).ArePlain) {k : Key}
    (enclosed : isEnclosedKey k = true) :
    ∃ l j : Key, fillKey P k = .ok l.toValue ∧ fillKey Q l = .ok j.toValue ∧
      fillKey (P ++ Q) k = .ok j.toValue := by
  cases k with
  | text s =>
    obtain ⟨t, u, first, second, once⟩ := fillText_in_stages given enclosed
    exact ⟨.text t, .text u, first, second, once⟩
  | _ => exact ⟨_, _, rfl, rfl, rfl⟩

/-- A value can be filled in in two stages, and they come to the same as one. -/
def InStages (P Q : Params) (v : Value) : Prop :=
  ∃ w u, fill P v = .ok w ∧ fill Q w = .ok u ∧ fill (P ++ Q) v = .ok u

theorem filledEntry_in_stages (given : (P ++ Q).ArePlain) {e : Key × Value}
    (key : isEnclosedKey e.1 = true) (value : InStages P Q e.2) :
    ∃ f g, filledEntry P e = .ok f ∧ filledEntry Q f = .ok g ∧
      filledEntry (P ++ Q) e = .ok g := by
  obtain ⟨l, j, hl, hj, direct⟩ := fillKey_in_stages given key
  obtain ⟨w, u, hw, hu, once⟩ := value
  refine ⟨(l, w), (j, u), ?_, ?_, ?_⟩
  · rw [filledEntry_eq_ok_iff, hl, ok_bind, toKey_toValue]
    exact ⟨rfl, hw⟩
  · rw [filledEntry_eq_ok_iff, hj, ok_bind, toKey_toValue]
    exact ⟨rfl, hu⟩
  · rw [filledEntry_eq_ok_iff, direct, ok_bind, toKey_toValue]
    exact ⟨rfl, once⟩

/-- Keys that are the same come to keys that are the same. -/
theorem same_of_filledEntry {e f g h : Key × Value} (hg : filledEntry params e = .ok g)
    (hh : filledEntry params f = .ok h) (same : e.1.same f.1 = true) : g.1.same h.1 = true := by
  obtain ⟨own, -⟩ := filledEntry_eq_ok_iff.mp hg
  obtain ⟨other, -⟩ := filledEntry_eq_ok_iff.mp hh
  have kept : ∀ k : Key, (∀ s, k ≠ .text s) → fillKey params k >>= toKey = .ok k := by
    intro k noText
    cases k with
    | text s => exact absurd rfl (noText s)
    | _ => rfl
  by_cases texts : ∃ s, e.1 = .text s
  · obtain ⟨s, text⟩ := texts
    rw [text, Key.same_comm, Key.same_text_iff] at same
    rw [text, ← same, other] at own
    rw [Except.ok.inj own]
    exact Key.same_self _
  · by_cases textf : ∃ s, f.1 = .text s
    · obtain ⟨s, text⟩ := textf
      rw [text, Key.same_text_iff] at same
      exact absurd ⟨s, same⟩ texts
    · rw [kept e.1 fun s text => texts ⟨s, text⟩] at own
      rw [kept f.1 fun s text => textf ⟨s, text⟩] at other
      rwa [← Except.ok.inj own, ← Except.ok.inj other]

theorem keys_of_mapM_filledEntry {m fs : Mapping} (h : m.mapM (filledEntry params) = .ok fs) :
    (m.filterMap fun e => keyAfter? params e.1) = fs.map (·.1) := by
  have related := mapM_eq_ok_iff.mp h
  clear h
  induction related with
  | nil => rfl
  | @cons e f m fs own _ ih =>
    have key : keyAfter? params e.1 = some f.1 := by
      rw [keyAfter?, (filledEntry_eq_ok_iff.mp own).1]
      rfl
    rw [List.filterMap_cons, key, List.map_cons, ← ih]

/-! ## Values -/

theorem inStages_of_isLeaf (given : (P ++ Q).ArePlain) {v : Value} (leaf : v.isLeaf = true)
    (enclosed : v.every (fun s => isEnclosed s.toList) (isTidy (P ++ Q)) = true) :
    InStages P Q v := by
  cases v with
  | list vs => cases leaf
  | map m => cases leaf
  | text s =>
    obtain ⟨t, u, first, second, once⟩ := fillText_in_stages given enclosed
    exact ⟨.text t, .text u, first, second, once⟩
  | _ => exact ⟨_, _, rfl, rfl, rfl⟩

theorem inStages_list {vs : List Value} (each : ∀ v ∈ vs, InStages P Q v) :
    InStages P Q (.list vs) := by
  obtain ⟨ws, us, hws, hus, once⟩ := exists_mapM_stages each
  refine ⟨.list ws, .list us, ?_, ?_, ?_⟩
  · rw [fill, fillItems_eq_mapM, hws]
    rfl
  · rw [fill, fillItems_eq_mapM, hus]
    rfl
  · rw [fill, fillItems_eq_mapM, once]
    rfl

/-- Where the filled entries have different keys, no two of them fall together. -/
theorem fill_map_of_distinct {m es : Mapping} (each : m.mapM (filledEntry params) = .ok es)
    (distinct : es.Distinct) : fill params (.map m) = .ok (.map es) := by
  have entries : Mapping.overlay [] es = es := Mapping.overlay_of_distinct distinct
  rw [fill, fillEntries_eq_mapM, each]
  exact congrArg (fun m => Except.ok (Value.map m)) entries

theorem inStages_map (given : (P ++ Q).ArePlain) {m : Mapping}
    (tidy : isTidy (P ++ Q) m = true) (each : ∀ e ∈ m, InStages P Q e.2) :
    InStages P Q (.map m) := by
  simp only [isTidy, Bool.and_eq_true, List.all_eq_true, decide_eq_true_eq] at tidy
  obtain ⟨keys, apart⟩ := tidy
  obtain ⟨es, fs, hes, hfs, once⟩ := exists_mapM_stages fun e mem =>
    filledEntry_in_stages given (keys e mem) (each e mem)
  -- what the second stage keeps apart the first has kept apart
  have last : Mapping.Distinct fs := by
    rw [keys_of_mapM_filledEntry once] at apart
    exact List.pairwise_map.mp apart
  have first : Mapping.Distinct es := by
    refine pairwise_of_mapM (fun e f g h hg hh other => ?_) hfs last
    refine Bool.eq_false_iff.mpr fun same => ?_
    rw [same_of_filledEntry hg hh same] at other
    cases other
  exact ⟨.map es, .map fs, fill_map_of_distinct hes first, fill_map_of_distinct hfs last,
    fill_map_of_distinct once last⟩

/-- Filling a template in with some parameters and then with others comes to the same as filling it
in with all of them at once, where a name that both have counts as the first's. The parameters have
to be plain texts. In the template, brackets open placeholders only, and no two keys of a mapping
become the same. -/
theorem fill_in_stages (given : (P ++ Q).ArePlain) (v : Value)
    (template : v.every (fun s => isEnclosed s.toList) (isTidy (P ++ Q)) = true) :
    ∃ w u, fill P v = .ok w ∧ fill Q w = .ok u ∧ fill (P ++ Q) v = .ok u := by
  refine Value.induction (P := fun v => v.every _ (isTidy (P ++ Q)) = true → InStages P Q v)
    ?_ ?_ ?_ v template
  · intro v leaf enclosed
    exact inStages_of_isLeaf given leaf enclosed
  · intro vs all template
    exact inStages_list fun v mem => all v mem (everyItem_iff.mp template v mem)
  · intro m all template
    obtain ⟨tidy, values⟩ := Value.every_map_iff.mp template
    exact inStages_map given tidy fun e mem => all e mem (values e mem)

/-- The parameters of a resource. -/
def usersParams : Params :=
  [("resourcePath", .text "/users"), ("resourcePathName", .text "users")]

/-- The parameter of a method. -/
def getParams : Params := [("methodName", .text "get")]

/-- A method as a resource type declares it, with placeholders for both, also as keys, and with one
that is never known. -/
def usersMethod : Value :=
  .record [("description", .text "<<methodName | !uppercase>> all <<resourcePathName>>"),
    ("queryParameters", .record [(" <<resourcePathName>> ", .text "<<other>>"),
      ("<<methodName>>_<<resourcePathName|!singularize>>", .list [.text " <<methodName>> "]),
      ("<<methodName>>", .null)])]

/-- The keys below the second facet, and the description. -/
theorem fill_in_stages_usersMethod :
    ∃ w u, fill usersParams usersMethod = .ok w ∧ fill getParams w = .ok u ∧
      fill (usersParams ++ getParams) usersMethod = .ok u ∧
      (u.entries.get "queryParameters").entries.map (·.1) =
        [.text "users", .text "get_user", .text "get"] ∧
      (u.entries.get "description").text? = some "GET all users" := by
  have given : Params.ArePlain (usersParams ++ getParams) := by
    unfold Params.ArePlain
    decide +kernel
  obtain ⟨w, u, first, second, once⟩ := fill_in_stages given usersMethod (by decide +kernel)
  have computed : (fill (usersParams ++ getParams) usersMethod).toOption.map (fun u =>
      ((u.entries.get "queryParameters").entries.map (·.1),
        (u.entries.get "description").text?)) =
      some ([.text "users", .text "get_user", .text "get"], some "GET all users") := by
    decide +kernel
  rw [once] at computed
  obtain ⟨keys, description⟩ := Prod.mk.inj (Option.some.inj computed)
  exact ⟨w, u, first, second, once, keys, description⟩

end RamlDocs.Template
