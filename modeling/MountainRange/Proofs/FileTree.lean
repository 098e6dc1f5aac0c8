import MountainRange.Files
set_option autoImplicit false

/-!
# Trees that grow

Folders that are made and files that are written leave the folders of a tree where they are.
So a folder that was made once is found again by its path, is not made a second time, and a name
below it leads to the file that was written there.
-/

namespace MountainRange

/-! ## Places -/

namespace Place

theorem isGiven_start (absolute : Bool) : (Path.start absolute).isGiven = true := by
  cases absolute <;> decide

/-- From what is there in any case a step up leads to what is there in any case. -/
theorem isGiven_parent {p : Place} (h : p.isGiven = true) : p.parent.isGiven = true := by
  unfold parent
  by_cases htop : p = top
  · rw [if_pos htop]
    decide
  · have hup : p.all (· = up) = true := by simpa [isGiven, htop] using h
    rw [if_neg htop, if_pos hup]
    simp [isGiven, List.all_append, hup]

/-- A place other than these is below its parent. -/
theorem parent_prefix {p : Place} (h : p.isGiven = false) : p.parent <+: p := by
  obtain ⟨htop, hup⟩ : p ≠ top ∧ ¬p.all (· = up) = true := by simpa [isGiven] using h
  rw [parent, if_neg htop, if_neg hup]
  exact List.dropLast_prefix p

end Place

/-! ## Paths below a folder -/

namespace Path

/-- A name as it stands in a path: not empty, no single dot, and not cut by a slash. -/
structure IsStep (name : Text) : Prop where
  ne_empty : name ≠ ""
  ne_dot : name ≠ "."
  no_slash : Letter.char '/' ∉ name

/-- A path as texts spell it. -/
def Plain (p : Path) : Prop := ∀ name ∈ p.names, IsStep name

end Path

namespace Text

/-- No part holds a character that the text is taken apart at. -/
theorem isBreak_of_mem_splitAt {isBreak : Letter → Bool} {t part : Text}
    (h : part ∈ splitAt isBreak t) : ∀ c ∈ part, isBreak c = false := by
  induction t generalizing part with
  | nil =>
      obtain rfl := List.mem_singleton.mp h
      exact List.forall_mem_nil _
  | cons c rest ih =>
      rw [splitAt] at h
      split at h
      · rcases List.mem_cons.mp h with rfl | h
        · exact List.forall_mem_nil _
        · exact ih h
      · next hc =>
          have hc : isBreak c = false := Bool.eq_false_iff.mpr hc
          split at h
          · next first parts hsplit =>
              rw [hsplit] at ih
              rcases List.mem_cons.mp h with rfl | h
              · exact List.forall_mem_cons.mpr ⟨hc, ih List.mem_cons_self⟩
              · exact ih (List.mem_cons_of_mem _ h)
          · obtain rfl := List.mem_singleton.mp h
            exact List.forall_mem_cons.mpr ⟨hc, List.forall_mem_nil _⟩

variable {c : Letter} {words : List Text}

/-- Words that are joined by a character are the parts between these. -/
theorem splitAt_join (hne : words ≠ []) (hwords : ∀ word ∈ words, c ∉ word) :
    splitAt (· = c) (join [c] words) = words := by
  rw [splitAt_eq_splitOnP]
  exact List.splitOn_intercalate c hwords hne

end Text

namespace Path

variable {p : Path} {name : Text}

theorem plain_ofText (t : Text) : (ofText t).Plain := by
  intro name hname
  obtain ⟨hstep, hkept⟩ := List.mem_filter.mp hname
  obtain ⟨hempty, hdot⟩ : name ≠ "" ∧ name ≠ "." := by simpa using hkept
  refine ⟨hempty, hdot, fun hslash => ?_⟩
  exact absurd (Text.isBreak_of_mem_splitAt hstep _ hslash) (by decide)

/-- A name with a slash behind it. -/
def slashed (name : Text) : Text := name ++ "/"

/-- What stands in front of a name in the text of a path below a folder. -/
def lead (p : Path) : Text := (if p.absolute then slashed [] else []) ++ p.names.flatMap slashed

theorem join_concat (names : List Text) (name : Text) :
    Text.join "/" (names ++ [name]) = names.flatMap slashed ++ name := by
  induction names with
  | nil => exact List.intercalate_singleton
  | cons first rest ih =>
      rw [List.cons_append, Text.join, List.intercalate_cons_of_ne_nil (by simp)]
      rw [Text.join] at ih
      rw [ih, List.flatMap_cons, slashed, List.append_assoc, List.append_assoc, List.append_assoc]

theorem text_child (p : Path) (name : Text) : (p.child name).text = p.lead ++ name := by
  rw [text, child, lead]
  dsimp only
  rw [join_concat]
  cases p.absolute with
  | true => exact (List.append_assoc ..).symm
  | false => simp

/-- The steps of a path below a folder are those of the folder and the name. -/
theorem stepsOf_text_child (hp : p.Plain) (hname : IsStep name) :
    stepsOf (p.child name).text = (if p.absolute then [[]] else []) ++ (p.names ++ [name]) := by
  have hplain : ∀ n ∈ p.names ++ [name], Letter.char '/' ∉ n :=
    List.forall_mem_append.mpr
      ⟨fun n hn => (hp n hn).no_slash, List.forall_mem_singleton.mpr hname.no_slash⟩
  have hjoin : stepsOf (Text.join "/" (p.names ++ [name])) = p.names ++ [name] :=
    Text.splitAt_join (by simp) hplain
  rw [text, child]
  cases p.absolute with
  | true => exact congrArg ([] :: ·) hjoin
  | false => simpa using hjoin

theorem isAbsolute_text_child (hp : p.Plain) (hname : IsStep name) :
    isAbsolute (p.child name).text = p.absolute := by
  have hhead : ∀ n rest : Text, IsStep n → (n ++ rest).head? ≠ some (.char '/') := by
    intro n rest hn
    cases n with
    | nil => exact absurd rfl hn.ne_empty
    | cons c n => exact fun h => hn.no_slash (Option.some.inj h ▸ List.mem_cons_self)
  rw [text_child, lead, isAbsolute]
  cases p.absolute with
  | true => rfl
  | false =>
      refine decide_eq_false ?_
      cases hnames : p.names with
      | nil => simpa using hhead name [] hname
      | cons first rest =>
          rw [if_neg Bool.false_ne_true, List.nil_append, List.flatMap_cons, slashed,
            List.append_assoc, List.append_assoc]
          exact hhead first _ (hp first (hnames ▸ List.mem_cons_self))

end Path

/-! ## Growth -/

namespace Files

variable {t u w : Files} {place dest : Place} {made : Bool} {names : List Text}

theorem isFolder_of_isGiven (t : Files) (h : place.isGiven = true) : t.isFolder place = true := by
  rw [isFolder, h]
  rfl

/-- Whatever stands above a folder is one. -/
theorem isFolder_of_prefix (habove : dest <+: place) (h : t.isFolder place = true)
    (hgiven : place.isGiven = false) : t.isFolder dest = true := by
  simp only [isFolder, hgiven, Bool.false_or, Bool.or_eq_true, List.any_eq_true, Bool.and_eq_true,
    List.isPrefixOf_iff_prefix, decide_eq_true_eq] at h ⊢
  rcases h with ⟨folder, hfolder, hbelow⟩ | ⟨file, hfile, hbelow, hne⟩
  · exact .inl (.inr ⟨folder, hfolder, habove.trans hbelow⟩)
  · refine .inr ⟨file, hfile, habove.trans hbelow, fun heq => hne ?_⟩
    exact hbelow.eq_of_length_le (heq ▸ habove.length_le)

theorem isFolder_parent (h : t.isFolder place = true) : t.isFolder place.parent = true := by
  cases hgiven : place.isGiven with
  | true => exact t.isFolder_of_isGiven (Place.isGiven_parent hgiven)
  | false => exact isFolder_of_prefix (Place.parent_prefix hgiven) h hgiven

theorem entry?_eq_folder_iff :
    t.entry? place = some .folder ↔ t.file? place = none ∧ t.isFolder place = true := by
  unfold entry?
  cases t.file? place with
  | some content => simp
  | none => simp

/-- A tree and what comes of it when folders are made and files are written: its folders stay,
and no file takes the place of one. -/
structure Grows (t u : Files) : Prop where
  isFolder : ∀ place, t.isFolder place = true → u.isFolder place = true
  entry : ∀ place, t.entry? place = some .folder → u.entry? place = some .folder

theorem Grows.refl (t : Files) : t.Grows t := ⟨fun _ => id, fun _ => id⟩

theorem Grows.trans (h : t.Grows u) (h' : u.Grows w) : t.Grows w :=
  ⟨fun place hplace => h'.isFolder place (h.isFolder place hplace),
    fun place hplace => h'.entry place (h.entry place hplace)⟩

/-- A tree with another folder. -/
def withFolder (t : Files) (place : Place) : Files := { t with folders := t.folders ++ [place] }

theorem isFolder_withFolder (t : Files) (place dest : Place) :
    (t.withFolder place).isFolder dest = (t.isFolder dest || dest.isPrefixOf place) := by
  rw [isFolder, isFolder, withFolder]
  dsimp only
  rw [List.any_append, List.any_cons, List.any_nil, Bool.or_false]
  grind

theorem grows_withFolder (t : Files) (place : Place) : t.Grows (t.withFolder place) := by
  have hfolder : ∀ dest, t.isFolder dest = true → (t.withFolder place).isFolder dest = true := by
    intro dest h
    rw [isFolder_withFolder, h]
    rfl
  refine ⟨hfolder, fun dest h => ?_⟩
  rw [entry?_eq_folder_iff] at h ⊢
  exact ⟨h.1, hfolder dest h.2⟩

/-- A folder stands where one was made. -/
theorem entry?_withFolder (h : t.entry? place = none) :
    Files.entry? (t.withFolder place) place = some .folder := by
  have hfile : t.file? place = none := by
    unfold entry? at h
    cases hfile : t.file? place with
    | none => rfl
    | some content => simp [hfile] at h
  rw [entry?_eq_folder_iff]
  refine ⟨hfile, ?_⟩
  rw [isFolder_withFolder, List.isPrefixOf_iff_prefix.mpr (List.prefix_refl place), Bool.or_true]

/-- A tree with a file at a place. -/
def withFile (t : Files) (place : Place) (content : Content) : Files :=
  { t with files := Entries.put t.files place content }

theorem write_eq_ok_iff {text : Text} : t.write place text = .ok u ↔
    t.isFolder place = false ∧ u = t.withFile place (.ofText text) := by
  rw [write]
  cases t.isFolder place with
  | true => simp
  | false => simpa [withFile] using eq_comm

theorem file?_withFile (t : Files) (place dest : Place) (content : Content) :
    (t.withFile place content).file? dest =
      if place = dest then some content else t.file? dest := Entries.get?_put ..

theorem isFolder_withFile (t : Files) (place dest : Place) (content : Content) :
    (t.withFile place content).isFolder dest =
      (t.isFolder dest || (dest.isPrefixOf place && dest ≠ place)) := by
  have hany : ∀ (files : List (Place × Content)) (q : Place → Bool),
      (Entries.put files place content).any (fun f => q f.1) =
        (files.any (fun f => q f.1) || q place) := by
    intro files q
    induction files with
    | nil => simp [Entries.put]
    | cons f rest ih =>
        obtain ⟨k, y⟩ := f
        rw [Entries.put]
        split
        · next heq =>
            subst heq
            grind
        · rw [List.any_cons, ih, List.any_cons, Bool.or_assoc]
  rw [isFolder, isFolder, withFile]
  dsimp only
  rw [hany t.files fun q => dest.isPrefixOf q && dest ≠ q, ← Bool.or_assoc]

/-- A file that is written where no folder is stands in the way of none. -/
theorem grows_withFile (h : t.isFolder place = false) (content : Content) :
    t.Grows (t.withFile place content) := by
  have hfolder : ∀ dest, t.isFolder dest = true →
      (t.withFile place content).isFolder dest = true := by
    intro dest hdest
    rw [isFolder_withFile, hdest, Bool.true_or]
  refine ⟨hfolder, fun dest hdest => ?_⟩
  obtain ⟨hfile, hdest⟩ := entry?_eq_folder_iff.mp hdest
  have hne : place ≠ dest := fun heq => by simp [heq, hdest] at h
  rw [entry?_eq_folder_iff, file?_withFile, if_neg hne]
  exact ⟨hfile, hfolder dest hdest⟩

/-- A file makes no folder of what stands beside it. -/
theorem isFolder_child_withFile (t : Files) (place : Place) (name other : Text)
    (content : Content) : (t.withFile (place.child other) content).isFolder (place.child name) =
      t.isFolder (place.child name) := by
  have hbeside : place.child name <+: place.child other → place.child name = place.child other :=
    fun hbelow => hbelow.eq_of_length (by simp [Place.child])
  have hnone : (List.isPrefixOf (place.child name) (place.child other) &&
      decide (place.child name ≠ place.child other)) = false := by
    simpa [List.isPrefixOf_iff_prefix] using hbeside
  rw [isFolder_withFile, hnone, Bool.or_false]

/-! ## Folders that are made -/

theorem grows_makeFolders (h : t.makeFolders place made names = .ok (u, dest)) : t.Grows u := by
  fun_induction makeFolders t place made names with
  | case1 t place made =>
      cases h
      exact .refl _
  | case2 => cases h
  | case3 t place made rest hshort ih => exact ih h
  | case4 t place made name rest hshort hup child hentry ih => exact ih h
  | case5 => cases h
  | case6 t place made name rest hshort hup child hentry ih =>
      exact (grows_withFolder t child).trans (ih h)

/-- Folders that were made are there, so making them again changes nothing. -/
theorem makeFolders_again (h : t.makeFolders place made names = .ok (u, dest)) (hgrows : u.Grows w)
    (made' : Bool) : w.makeFolders place made' names = .ok (w, dest) := by
  fun_induction makeFolders t place made names generalizing made' with
  | case1 t place made =>
      cases h
      rfl
  | case2 => cases h
  | case3 t place made rest hshort ih =>
      rw [makeFolders, if_neg hshort, if_pos rfl]
      exact ih h made'
  | case4 t place made name rest hshort hup child hentry ih =>
      have hfolder := ((grows_makeFolders h).trans hgrows).entry child hentry
      rw [makeFolders, if_neg hshort, if_neg hup]
      dsimp only
      rw [hfolder]
      exact ih h made'
  | case5 => cases h
  | case6 t place made name rest hshort hup child hentry ih =>
      have hfolder := ((grows_makeFolders h).trans hgrows).entry child (entry?_withFolder hentry)
      rw [makeFolders, if_neg hshort, if_neg hup]
      dsimp only
      rw [hfolder]
      exact ih h made'

theorem walk?_cons {name : Text} {rest : List Text} (hplace : t.isFolder place = true)
    (hname : Path.IsStep name) (hshort : ¬Path.isLongName name = true) :
    t.walk? place (name :: rest) =
      t.walk? (if name = Place.up then place.parent else place.child name) rest := by
  rw [walk?, if_neg (by simp [hplace, hshort]), if_neg (by simp [hname.ne_empty, hname.ne_dot])]
  split <;> rfl

theorem walk?_nothing (hplace : t.isFolder place = true) (rest : List Text) :
    t.walk? place ([] :: rest) = t.walk? place rest := by
  have hshort : Path.isLongName [] = false := by decide
  rw [walk?, if_neg (by simp [hplace, hshort]), if_pos (by decide)]

/-- The names of folders that were made lead to the last of them. -/
theorem walk?_of_makeFolders (h : t.makeFolders place made names = .ok (u, dest))
    (hplace : t.isFolder place = true) (hnames : ∀ name ∈ names, Path.IsStep name)
    (hgrows : u.Grows w) (rest : List Text) :
    w.isFolder dest = true ∧ w.walk? place (names ++ rest) = w.walk? dest rest := by
  fun_induction makeFolders t place made names with
  | case1 t place made =>
      cases h
      exact ⟨hgrows.isFolder _ hplace, rfl⟩
  | case2 => cases h
  | case3 t place made names hshort ih =>
      obtain ⟨hplain, hnames⟩ := List.forall_mem_cons.mp hnames
      have hhere := ((grows_makeFolders h).trans hgrows).isFolder place hplace
      rw [List.cons_append, walk?_cons hhere hplain hshort, if_pos rfl]
      exact ih h (isFolder_parent hplace) hnames
  | case4 t place made name names hshort hup child hentry ih =>
      obtain ⟨hplain, hnames⟩ := List.forall_mem_cons.mp hnames
      have hhere := ((grows_makeFolders h).trans hgrows).isFolder place hplace
      rw [List.cons_append, walk?_cons hhere hplain hshort, if_neg hup]
      exact ih h (entry?_eq_folder_iff.mp hentry).2 hnames
  | case5 => cases h
  | case6 t place made name names hshort hup child hentry ih =>
      obtain ⟨hplain, hnames⟩ := List.forall_mem_cons.mp hnames
      have hmade := (grows_withFolder t child).trans (grows_makeFolders h)
      have hhere := (hmade.trans hgrows).isFolder place hplace
      rw [List.cons_append, walk?_cons hhere hplain hshort, if_neg hup]
      exact ih h (entry?_eq_folder_iff.mp (entry?_withFolder hentry)).2 hnames

/-! ## Files below a folder -/

variable {p : Path} {name : Text}

theorem makeFolder_eq_ok_iff : t.makeFolder p = .ok (u, dest) ↔
    Path.fault? p.text = none ∧ Path.isLong p.text = false ∧
      t.makeFolders (Path.start p.absolute) false p.names = .ok (u, dest) := by
  rw [makeFolder]
  cases Path.fault? p.text with
  | some fault => simp
  | none => cases Path.isLong p.text <;> simp

/-- A folder that was made is there, so making it again changes nothing. -/
theorem makeFolder_again (h : t.makeFolder p = .ok (u, dest)) (hgrows : u.Grows w) :
    w.makeFolder p = .ok (w, dest) := by
  obtain ⟨hfault, hshort, hmade⟩ := makeFolder_eq_ok_iff.mp h
  exact makeFolder_eq_ok_iff.mpr ⟨hfault, hshort, makeFolders_again hmade hgrows false⟩

/-- What is found at a path below a folder that was made is what stands below its place. -/
theorem find?_child (h : t.makeFolder p = .ok (u, dest)) (hp : p.Plain) (hgrows : u.Grows w)
    (hname : Path.IsStep name) (hup : name ≠ Place.up) (hshort : Path.isLongName name = false)
    (hlong : Path.isLong (p.child name).text = false) :
    w.find? (p.child name).text = w.entry? (dest.child name) := by
  obtain ⟨-, -, hmade⟩ := makeFolder_eq_ok_iff.mp h
  have hstart : ∀ t' : Files, t'.isFolder (Path.start p.absolute) = true :=
    fun t' => t'.isFolder_of_isGiven (Place.isGiven_start p.absolute)
  obtain ⟨hdest, hwalk⟩ := walk?_of_makeFolders hmade (hstart t) hp hgrows [name]
  have hsteps : w.walk? (Path.start p.absolute) (Path.stepsOf (p.child name).text) =
      some (dest.child name) := by
    rw [Path.stepsOf_text_child hp hname]
    have hrest : w.walk? (Path.start p.absolute) (p.names ++ [name]) = some (dest.child name) := by
      rw [hwalk, walk?_cons hdest hname (by simp [hshort]), if_neg hup]
      rfl
    split
    · exact (walk?_nothing (hstart w) _).trans hrest
    · exact hrest
  have hne : (p.child name).text.isEmpty = false := by
    rw [Path.text_child]
    cases hempty : name with
    | nil => exact absurd hempty hname.ne_empty
    | cons c rest => simp
  rw [find?, hne, hlong, Path.isAbsolute_text_child hp hname]
  show (w.walk? _ _).bind w.entry? = _
  rw [hsteps]
  rfl

end Files

end MountainRange
