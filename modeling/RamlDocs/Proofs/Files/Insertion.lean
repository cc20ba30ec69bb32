import Mathlib.Data.List.Basic
import RamlDocs.Files.Write
import RamlDocs.Proofs.Outcome

/-!
# What is put into a tree of files is found there

A path is followed twice when a file is written and then read: through the tree before the change
and through the one after it, and in between it can go up by double points and down again
elsewhere. The change keeps every way that could be gone before (`Entry.Keeps`), so the path leads
to the directory of the same names (`Place.Alike.walk`), which is the one that was changed
(`Entry.find?_changeAt`). Hence the entry that was inserted is what the path locates afterwards
(`Entry.locate_insert`), and a text that was saved is what is read (`Entry.read_save`).
-/

namespace RamlDocs.Files

namespace Entry

/-! ## Ways down -/

/-- The entry of a directory under a name. What is outside of a tree is there without being
listed. -/
def child? (es : List (String × Entry)) (name : String) : Option Entry :=
  if name = ".." then some (childOf es name) else es.lookup name

/-- The entry that names lead down to. -/
def find? : List String → Entry → Option Entry
  | [], e => some e
  | name :: names, e => (e.children?.bind (child? · name)).bind (find? names)

variable {es : List (String × Entry)} {name other : String} {old new e c : Entry}

theorem eq_dir_of_children? (h : e.children? = some es) : e = .dir es := by
  cases e with
  | file bytes => cases h
  | dir own => exact congrArg Entry.dir (Option.some.inj h)

theorem child?_of_ne (h : name ≠ "..") : child? es name = es.lookup name := by
  rw [child?, if_neg h]

theorem childOf_of_child? (h : child? es name = some c) : childOf es name = c := by
  unfold child? at h
  split at h
  · exact Option.some.inj h
  · rw [childOf, h, Option.getD_some]

theorem lookup_cons (es : List (String × Entry)) :
    ((name, e) :: es).lookup other = if other = name then some e else es.lookup other := by
  rw [List.lookup_cons]
  by_cases same : other = name
  · rw [if_pos same, beq_iff_eq.mpr same]
  · rw [if_neg same, beq_eq_false_iff_ne.mpr same]

theorem lookup_putChild (es : List (String × Entry)) :
    (putChild name e es).lookup other = if other = name then some e else es.lookup other := by
  induction es with
  | nil => exact lookup_cons []
  | cons entry es ih =>
    obtain ⟨n, old⟩ := entry
    unfold putChild
    by_cases there : n = name
    · subst there
      rw [if_pos rfl, lookup_cons, lookup_cons]
      split <;> rfl
    · rw [if_neg there, lookup_cons, lookup_cons, ih]
      by_cases same : other = n
      · rw [if_pos same, if_pos same, if_neg (same ▸ there)]
      · rw [if_neg same, if_neg same]

theorem child?_putChild (es : List (String × Entry)) :
    child? (putChild name e es) other = if other = name then some e else child? es other := by
  unfold child? childOf
  rw [lookup_putChild]
  by_cases same : other = name <;> simp [same]

theorem find?_cons_eq_some {names : List String} :
    find? (name :: names) e = some c ↔
      ∃ es next, e.children? = some es ∧ child? es name = some next ∧ find? names next = some c := by
  simp only [find?, Option.bind_eq_some_iff]
  constructor
  · rintro ⟨next, ⟨es, children, child⟩, found⟩
    exact ⟨es, next, children, child, found⟩
  · rintro ⟨es, next, children, child, found⟩
    exact ⟨next, ⟨es, children, child⟩, found⟩

theorem find?_append (ns ms : List String) (e : Entry) :
    find? (ns ++ ms) e = (find? ns e).bind (find? ms) := by
  induction ns generalizing e with
  | nil => rfl
  | cons n ns ih =>
    rw [List.cons_append, find?, find?, funext ih, ← Option.bind_assoc]

/-- The directory at the end of a way is the one that is changed. -/
theorem find?_changeAt (change : List (String × Entry) → List (String × Entry))
    {way : List String} (h : find? way e = some (.dir es)) :
    find? way (changeAt change way e) = some (.dir (change es)) := by
  induction way generalizing e with
  | nil =>
    cases h
    rfl
  | cons n ns ih =>
    obtain ⟨own, c, children, child, found⟩ := find?_cons_eq_some.mp h
    rw [changeAt, children, Option.getD_some, childOf_of_child? child]
    refine find?_cons_eq_some.mpr ⟨_, changeAt change ns c, rfl, ?_, ih found⟩
    rw [child?_putChild, if_pos rfl]

/-! ## What a change keeps -/

/-- Where names lead to something they still do, and where it was a directory it still is one. -/
def Keeps (old new : Entry) : Prop :=
  ∀ way e, find? way old = some e →
    ∃ e', find? way new = some e' ∧ (e.children?.isSome → e'.children?.isSome)

theorem keeps_of_file (h : old.children? = none) (new : Entry) : Keeps old new := by
  intro way e found
  cases way with
  | nil =>
    cases found
    exact ⟨new, rfl, fun directory => by simp [h] at directory⟩
  | cons n ns =>
    obtain ⟨es, -, children, -⟩ := find?_cons_eq_some.mp found
    cases h.symm.trans children

/-- A directory keeps its ways if the one entry that is put keeps those of the entry before. -/
theorem keeps_putChild (h : ∀ c, child? es name = some c → Keeps c e) :
    Keeps (.dir es) (.dir (putChild name e es)) := by
  intro way x found
  cases way with
  | nil => exact ⟨_, rfl, fun _ => rfl⟩
  | cons n ns =>
    obtain ⟨own, c, children, child, found⟩ := find?_cons_eq_some.mp found
    cases children
    by_cases same : n = name
    · subst same
      obtain ⟨x', found', directory⟩ := h c child ns x found
      refine ⟨x', find?_cons_eq_some.mpr ⟨_, e, rfl, ?_, found'⟩, directory⟩
      rw [child?_putChild, if_pos rfl]
    · refine ⟨x, find?_cons_eq_some.mpr ⟨_, c, rfl, ?_, found⟩, id⟩
      rw [child?_putChild, if_neg same, child]

/-- An entry that is put where no directory was keeps the ways of the whole tree. -/
theorem keeps_changeAt {way : List String} (found : find? way old = some (.dir es))
    (free : ∀ c, child? es name = some c → c.children? = none) :
    Keeps old (changeAt (putChild name e) way old) := by
  induction way generalizing old with
  | nil =>
    cases found
    exact keeps_putChild fun c child => keeps_of_file (free c child) e
  | cons n ns ih =>
    obtain ⟨own, c, children, child, found⟩ := find?_cons_eq_some.mp found
    rw [eq_dir_of_children? children, changeAt, children?, Option.getD_some, childOf_of_child? child]
    exact keeps_putChild fun d same => Option.some.inj (child.symm.trans same) ▸ ih found

theorem Keeps.children (h : Keeps old new) (children : old.children? = some es) :
    ∃ es', new.children? = some es' := by
  obtain ⟨e', found, directory⟩ := h [] old rfl
  cases found
  exact Option.isSome_iff_exists.mp (directory (by simp [children]))

/-- What is kept is kept below each name. -/
theorem Keeps.child (h : Keeps old new) (children : old.children? = some es)
    (child : child? es name = some c) :
    ∃ es' c', new.children? = some es' ∧ child? es' name = some c' ∧ Keeps c c' := by
  have below {way : List String} {x : Entry} (found : find? way c = some x) :
      find? (name :: way) old = some x := find?_cons_eq_some.mpr ⟨es, c, children, child, found⟩
  obtain ⟨_, found', _⟩ := h [name] c (below rfl)
  obtain ⟨es', c', children', child', _⟩ := find?_cons_eq_some.mp found'
  refine ⟨es', c', children', child', fun way x found => ?_⟩
  obtain ⟨x', there, directory⟩ := h (name :: way) x (below found)
  obtain ⟨own, d, children, child, there⟩ := find?_cons_eq_some.mp there
  cases children'.symm.trans children
  cases child'.symm.trans child
  exact ⟨x', there, directory⟩

end Entry

/-! ## Following a path -/

namespace Place

variable {root : Entry} {p q p' : Place} {name : String} {names : List String}

/-- Where one name more leads to. -/
inductive Leads (p : Place) : String → Place → Prop
  | out {es : List (String × Entry)} (children : p.here.children? = some es) (top : p.above = []) :
    Leads p ".." ⟨[], ".." :: p.way, Entry.childOf es ".."⟩
  | up {es : List (String × Entry)} (children : p.here.children? = some es) {e : Entry}
    {rest : List Entry} (above : p.above = e :: rest) : Leads p ".." ⟨rest, p.way.tail, e⟩
  | down {es : List (String × Entry)} (children : p.here.children? = some es) {name : String}
    (down : name ≠ "..") (short : ¬ nameLimit < name.utf8ByteSize) {e : Entry}
    (listed : es.lookup name = some e) : Leads p name ⟨p.here :: p.above, name :: p.way, e⟩

theorem step_eq_ok_iff : p.step name = .ok q ↔ Leads p name q := by
  constructor
  · intro ok
    unfold step at ok
    split at ok
    · cases ok
    next es children =>
      split at ok
      next up =>
        cases eq_of_beq up
        split at ok
        · cases ok
          exact .out children ‹_›
        · cases ok
          exact .up children ‹_›
      next down =>
        split at ok
        · cases ok
        next short =>
          split at ok
          · cases ok
          · cases ok
            exact .down children (by simpa using down) short ‹_›
  · intro leads
    unfold step
    cases leads with
    | out children top => simp only [children, top, beq_self_eq_true, if_true]
    | up children above => simp only [children, above, beq_self_eq_true, if_true]
    | down children down short listed =>
      simp only [children, listed, beq_eq_false_iff_ne.mpr down, Bool.false_eq_true, if_false,
        if_neg short]

theorem walk_cons (p : Place) (name : String) (names : List String) :
    p.walk (name :: names) = p.step name >>= fun q => q.walk names := List.foldlM_cons

theorem walk_append (p : Place) (ns ms : List String) :
    p.walk (ns ++ ms) = p.walk ns >>= fun q => q.walk ms := List.foldlM_append

/-- The names that lead down to a place lead to its entry, and so it is for the directories that it
is in. A place that double points have led out of the tree is in none. -/
inductive In (root : Entry) : Place → Prop
  | outside {way : List String} {here : Entry} (found : Entry.find? way.reverse root = some here) :
    In root ⟨[], way, here⟩
  | inside {p : Place} (above : In root p) {name : String} {here : Entry}
    (found : Entry.find? (name :: p.way).reverse root = some here) :
    In root ⟨p.here :: p.above, name :: p.way, here⟩

theorem In.found (h : In root p) : Entry.find? p.way.reverse root = some p.here := by
  cases h <;> assumption

/-- What is one name below a place. -/
theorem In.found_child (h : In root p) {es : List (String × Entry)} {c : Entry}
    (children : p.here.children? = some es) (child : Entry.child? es name = some c) :
    Entry.find? (name :: p.way).reverse root = some c := by
  rw [List.reverse_cons, Entry.find?_append, h.found, Option.bind_some]
  exact Entry.find?_cons_eq_some.mpr ⟨es, c, children, child, rfl⟩

theorem In.step (h : In root p) (ok : p.step name = .ok q) : In root q := by
  cases step_eq_ok_iff.mp ok with
  | out children => exact .outside (h.found_child children rfl)
  | up children above =>
    -- the directory above was passed on the way down
    cases h with
    | outside => cases above
    | inside h =>
      cases above
      exact h
  | down children down short listed =>
    exact .inside h (h.found_child children (by rwa [Entry.child?_of_ne down]))

theorem In.walk (h : In root p) (ok : p.walk names = .ok q) : In root q := by
  induction names generalizing p with
  | nil =>
    cases ok
    exact h
  | cons name names ih =>
    obtain ⟨next, first, ok⟩ := bind_eq_ok.mp (walk_cons p name names ▸ ok)
    exact ih (h.step first) ok

/-- Two places of the same names, of which the second has all ways of the first. -/
structure Alike (p p' : Place) : Prop where
  way : p.way = p'.way
  here : Entry.Keeps p.here p'.here
  above : List.Forall₂ Entry.Keeps p.above p'.above

theorem Alike.step (h : Alike p p') (ok : p.step name = .ok q) :
    ∃ q', p'.step name = .ok q' ∧ Alike q q' := by
  cases step_eq_ok_iff.mp ok with
  | out children top =>
    obtain ⟨es', c', children', child, kept⟩ :=
      h.here.child children (rfl : Entry.child? _ ".." = some _)
    have top' : p'.above = [] := List.forall₂_nil_left_iff.mp (top ▸ h.above)
    refine ⟨_, step_eq_ok_iff.mpr (.out children' top'), congrArg (".." :: ·) h.way,
      ?_, .nil⟩
    exact Option.some.inj child ▸ kept
  | up children above =>
    obtain ⟨es', children'⟩ := h.here.children children
    obtain ⟨e', rest', kept, more, above'⟩ := List.forall₂_cons_left_iff.mp (above ▸ h.above)
    exact ⟨_, step_eq_ok_iff.mpr (.up children' above'), congrArg List.tail h.way,
      kept, more⟩
  | down children down short listed =>
    have child := listed
    rw [← Entry.child?_of_ne down] at child
    obtain ⟨es', c', children', child', kept⟩ := h.here.child children child
    rw [Entry.child?_of_ne down] at child'
    refine ⟨_, step_eq_ok_iff.mpr (.down children' down short child'), ?_, kept, ?_⟩
    · exact congrArg (name :: ·) h.way
    · exact .cons h.here h.above

theorem Alike.walk (h : Alike p p') (ok : p.walk names = .ok q) :
    ∃ q', p'.walk names = .ok q' ∧ Alike q q' := by
  induction names generalizing p p' with
  | nil =>
    cases ok
    exact ⟨p', rfl, h⟩
  | cons name names ih =>
    obtain ⟨next, first, ok⟩ := bind_eq_ok.mp (walk_cons p name names ▸ ok)
    obtain ⟨next', first', alike⟩ := h.step first
    obtain ⟨q', more, alike⟩ := ih alike ok
    exact ⟨q', by rw [walk_cons, first', ok_bind, more], alike⟩

end Place

namespace Entry

variable {root after e : Entry} {p : Path} {replaces : Entry → Except Refusal Unit}

/-- Where an entry can be put at a path: all names but the last lead to a directory, and nothing
there stands in the way under the last one. -/
structure Admits (root : Entry) (p : Path) (replaces : Entry → Except Refusal Unit)
    (parent : Place) (es : List (String × Entry)) (name : String) : Prop where
  short : ¬ pathLimit < p.display.utf8ByteSize
  names : p.names = p.names.dropLast ++ [name]
  walked : (Place.root root).walk p.names.dropLast = .ok parent
  children : parent.here.children? = some es
  down : name ≠ ".."
  brief : ¬ nameLimit < name.utf8ByteSize
  allowed : ∀ old, es.lookup name = some old → replaces old = .ok ()

theorem insert_eq_ok (h : root.insert p replaces e = .ok after) :
    ∃ parent es name, Admits root p replaces parent es name ∧
      after = changeAt (putChild name e) parent.way.reverse root := by
  unfold insert at h
  split at h
  · cases h
  next short =>
    split at h
    · cases h
    next name last =>
      have names := (List.dropLast_append_getLast? name last).symm
      obtain ⟨parent, walked, h⟩ := bind_eq_ok.mp h
      split at h
      · cases h
      next es children =>
        split at h
        · cases h
        next down =>
          split at h
          · cases h
          next brief =>
            have down : name ≠ ".." := by simpa using down
            split at h
            next old listed =>
              obtain ⟨⟨⟩, allowed, h⟩ := bind_eq_ok.mp h
              have all : ∀ o, es.lookup name = some o → replaces o = .ok () :=
                fun o same => Option.some.inj (listed.symm.trans same) ▸ allowed
              exact ⟨parent, es, name, ⟨short, names, walked, children, down, brief, all⟩,
                (Except.ok.inj h).symm⟩
            next unlisted =>
              have all : ∀ o, es.lookup name = some o → replaces o = .ok () :=
                fun o same => by cases unlisted.symm.trans same
              exact ⟨parent, es, name, ⟨short, names, walked, children, down, brief, all⟩,
                (Except.ok.inj h).symm⟩

/-- An entry that is put in place of no directory is found under the path it was put at. -/
theorem locate_insert (h : root.insert p replaces e = .ok after)
    (careful : ∀ old, replaces old = .ok () → old.children? = none) : after.locate p = .ok e := by
  obtain ⟨parent, es, name, admits, made⟩ := insert_eq_ok h
  have start (e : Entry) : Place.In e (Place.root e) := .outside rfl
  have found := ((start root).walk admits.walked).found
  rw [eq_dir_of_children? admits.children] at found
  have keeps : Keeps root after := made ▸ keeps_changeAt found fun c child =>
    careful c (admits.allowed c (by rwa [child?_of_ne admits.down] at child))
  have changed := find?_changeAt (putChild name e) found
  rw [← made] at changed
  -- the same names lead to the same directory, which now has the entry
  have alike : Place.Alike (Place.root root) (Place.root after) := ⟨rfl, keeps, .nil⟩
  obtain ⟨parent', walked', same⟩ := alike.walk admits.walked
  have found' := ((start after).walk walked').found
  rw [← same.way, changed] at found'
  have children' : parent'.here.children? = some (putChild name e es) := by
    rw [← Option.some.inj found']
    rfl
  have listed : (putChild name e es).lookup name = some e := by rw [lookup_putChild, if_pos rfl]
  have last := Place.step_eq_ok_iff.mpr (.down children' admits.down admits.brief listed)
  rw [locate, if_neg admits.short, admits.names, Place.walk_append, walked', ok_bind,
    Place.walk_cons, last]
  rfl

/-- A file that was written is read. -/
theorem read_writeFile {bytes : List Nat} (h : root.writeFile p bytes = .ok after) :
    after.read p = .ok bytes := by
  unfold writeFile at h
  split at h
  · cases h
  · have located : after.locate p = .ok (.file bytes) := by
      refine locate_insert h fun old allowed => ?_
      cases old with
      | file _ => rfl
      | dir _ => cases allowed
    rw [read, located]

/-- A text that was saved is read, as the bytes that it is encoded by. -/
theorem read_save {text : String} (h : root.save p text = (after, none)) :
    after.read p = .ok (text.toUTF8.toList.map UInt8.toNat) := by
  unfold save at h
  split at h
  · cases h
  · split at h
    next written =>
      cases h
      exact read_writeFile written
    · cases h

end Entry

end RamlDocs.Files
