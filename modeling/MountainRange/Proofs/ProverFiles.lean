import MountainRange.Proofs.FileTree
import MountainRange.Proofs.PrintedSlots
set_option autoImplicit false

/-!
# The files of the prover

Whoever reads the two files of the prover finds the slots that were decoded last: both hold the
same slots, in full, and slots that make no request leave no trace, not even a folder.
-/

namespace MountainRange.ProverInput

open Text.Numeral (maxDigits)

/-! ## What the files are read as -/

/-- The value that a file with an array holds. -/
def readArray? (content : Content) : Option Value :=
  content.text?.bind fun t => (Json.read t).toOption

/-- The decimals of a file, between its spaces. -/
def readDecimals? (content : Content) : Option (List Value) :=
  content.text?.bind fun t =>
    ((Text.splitAt (· = ' ') t).mapM Text.readInt).toOption.map (·.map .int)

section Texts

variable {slots : List Value} {r : Request}

theorem readsBack_slots (h : Encoding.decode slots = .ok r) :
    Json.ReadsBack .line (.array [.array slots]) (.array [.array slots]) := by
  obtain ⟨hfits, rfl⟩ := Encoding.decode_eq_ok_iff.mp h
  have hstandard := Json.Style.isStandard_line
  refine Json.readsBack_array hstandard (.cons (Json.readsBack_array hstandard ?_) .nil)
  rw [Encoding.encodeValues, List.forall₂_map_left_iff, List.forall₂_map_right_iff,
    List.forall₂_same]
  exact fun n hn => Json.readsBack_int .line (Encoding.lt_pow_of_mem_encode hfits n hn)

/-- The array is read back from its file. -/
theorem readArray?_arrayText (h : Encoding.decode slots = .ok r) :
    readArray? (.ofText (arrayText slots)) = some (.array [.array slots]) := by
  rw [readArray?, Content.ofText, arrayText, Json.text?_toBytes_write]
  show (Json.read _).toOption = _
  rw [Json.read_write (readsBack_slots h)]
  rfl

theorem mapM_readInt_printedSlots (hfits : Encoding.Fits r) :
    (Encoding.printedSlots r).mapM Text.readInt = .ok ((Encoding.encode r).map Int.ofNat) := by
  rw [mapM_eq_ok_iff_forall₂, Encoding.printedSlots, List.forall₂_map_left_iff,
    List.forall₂_map_right_iff, List.forall₂_same]
  intro n hn
  rw [printed, FieldText.readInt_toString, if_pos (Encoding.lt_pow_of_mem_encode hfits n hn)]
  rfl

/-- The decimals are read back from theirs. -/
theorem readDecimals?_decimalsText (h : Encoding.decode slots = .ok r) :
    readDecimals? (.ofText (decimalsText slots)) = some slots := by
  obtain ⟨hfits, rfl⟩ := Encoding.decode_eq_ok_iff.mp h
  have hspace : ∀ word ∈ Encoding.printedSlots r, Letter.char ' ' ∉ word := by
    intro word hword hmem
    obtain ⟨n, -, rfl⟩ := List.mem_map.mp hword
    exact absurd (isBlank_of_mem_printed hmem) (by decide)
  have hne : Encoding.printedSlots r ≠ [] := mt List.map_eq_nil_iff.mp (Encoding.encode_ne_nil r)
  have hsplit : Text.splitAt (· = ' ') (Text.join " " (Encoding.printedSlots r)) =
      Encoding.printedSlots r := Text.splitAt_join hne hspace
  have hencodable := (Text.encodable_append_iff.mp (Encoding.encodable_printedLine r)).1
  rw [Encoding.line_eq] at hencodable
  have hreturn : ∀ c ∈ Text.join " " (Encoding.printedSlots r), c ≠ .char '\r' := by
    refine Text.forall_mem_join (by decide) fun word hword c hc => ?_
    obtain ⟨n, -, rfl⟩ := List.mem_map.mp hword
    rintro rfl
    exact absurd (isBlank_of_mem_printed hc) (by decide)
  have htext := Content.text?_toBytes hencodable fun hmem => hreturn _ hmem rfl
  rw [readDecimals?, Content.ofText, Encoding.line_eq, htext]
  show ((Text.splitAt _ _).mapM Text.readInt).toOption.map _ = _
  rw [hsplit, mapM_readInt_printedSlots hfits]
  show some (((Encoding.encode r).map Int.ofNat).map Value.int) = _
  rw [List.map_map]
  rfl

end Texts

/-! ## Writing into a folder -/

/-- The paths of the files in a folder. -/
def pathsIn (folder : Path) : Paths := ⟨folder.child arrayName, folder.child decimalsName⟩

/-- A folder that the file system lets slots be written into, whatever they are. -/
def Writable (t : Files) (folder : Path) : Prop :=
  ∀ slots e, (writeSlots t folder slots).2 ≠ .error e

/-- A folder made at a place where nothing stands in the way of the files. -/
structure Ready (t : Files) (folder : Path) (made : Files) (place : Place) : Prop where
  isMade : t.makeFolder folder = .ok (made, place)
  short : Path.isLong (folder.child arrayName).text = false
  array : made.isFolder (place.child arrayName) = false
  decimals : made.isFolder (place.child decimalsName) = false

/-- A tree with both files at a place. -/
def withFiles (t : Files) (place : Place) (slots : List Value) : Files :=
  (t.withFile (place.child arrayName) (.ofText (arrayText slots))).withFile
    (place.child decimalsName) (.ofText (decimalsText slots))

section Folder

variable {t made : Files} {folder : Path} {place : Place}

/-- Slots are written exactly into a folder that is there, or can be made, and in which neither
of the names is a folder. -/
theorem writeSlots_eq_ok_iff {u : Files} {slots : List Value} {paths : Paths} :
    writeSlots t folder slots = (u, .ok paths) ↔
      ∃ made place, Ready t folder made place ∧ u = withFiles made place slots ∧
        paths = pathsIn folder := by
  have hbeside (made : Files) (place : Place) (content : Content) :=
    made.isFolder_child_withFile place decimalsName arrayName content
  constructor
  · intro h
    unfold writeSlots at h
    dsimp only at h
    split at h
    · cases h
    · next made place hfolder =>
        split at h
        · cases h
        · next hshort =>
            split at h
            · cases h
            · next hfirst =>
                split at h
                · cases h
                · next hsecond =>
                    obtain ⟨harray, rfl⟩ := Files.write_eq_ok_iff.mp hfirst
                    obtain ⟨hdecimals, rfl⟩ := Files.write_eq_ok_iff.mp hsecond
                    obtain ⟨rfl, hpaths⟩ := Prod.mk.inj h
                    refine ⟨made, place, ⟨hfolder, Bool.eq_false_iff.mpr hshort, harray, ?_⟩, rfl,
                      (Except.ok.inj hpaths).symm⟩
                    exact (hbeside ..).symm.trans hdecimals
  · rintro ⟨made, place, h, rfl, rfl⟩
    unfold writeSlots
    dsimp only
    rw [h.isMade]
    dsimp only
    rw [if_neg (by simp [h.short]), Files.write_eq_ok_iff.mpr ⟨h.array, rfl⟩]
    dsimp only
    rw [Files.write_eq_ok_iff.mpr ⟨(hbeside ..).trans h.decimals, rfl⟩]
    rfl

theorem writable_iff_exists_ready :
    Writable t folder ↔ ∃ made place, Ready t folder made place := by
  constructor
  · intro h
    cases hwritten : writeSlots t folder [] with
    | mk u result =>
        cases result with
        | error e => exact absurd (congrArg Prod.snd hwritten) (h [] e)
        | ok paths =>
            obtain ⟨made, place, hready, -⟩ := writeSlots_eq_ok_iff.mp hwritten
            exact ⟨made, place, hready⟩
  · rintro ⟨made, place, h⟩ slots e
    rw [writeSlots_eq_ok_iff.mpr ⟨made, place, h, rfl, rfl⟩]
    exact nofun

/-- The files make no folder of what stands beside them. -/
theorem isFolder_child_withFiles (t : Files) (place : Place) (slots : List Value) (name : Text) :
    (withFiles t place slots).isFolder (place.child name) = t.isFolder (place.child name) := by
  rw [withFiles, Files.isFolder_child_withFile, Files.isFolder_child_withFile]

theorem Ready.grows_withFiles (h : Ready t folder made place) (slots : List Value) :
    made.Grows (withFiles made place slots) :=
  (Files.grows_withFile h.array _).trans
    (Files.grows_withFile ((Files.isFolder_child_withFile ..).trans h.decimals) _)

/-- Once the files are written, the folder is ready for others in their place. -/
theorem Ready.again (h : Ready t folder made place) (slots : List Value) :
    Ready (withFiles made place slots) folder (withFiles made place slots) place := by
  refine ⟨Files.makeFolder_again h.isMade (h.grows_withFiles slots), h.short, ?_, ?_⟩
  · rw [isFolder_child_withFiles, h.array]
  · rw [isFolder_child_withFiles, h.decimals]

theorem isStep_arrayName : Path.IsStep arrayName := ⟨by decide, by decide, by decide⟩

theorem isStep_decimalsName : Path.IsStep decimalsName := ⟨by decide, by decide, by decide⟩

theorem child_decimalsName_ne (place : Place) : place.child decimalsName ≠ place.child arrayName :=
  fun heq => absurd (List.append_cancel_left heq) (by decide)

/-- The path of the decimals is shorter than the path of the array. -/
theorem isLong_decimals (h : Path.isLong (folder.child arrayName).text = false) :
    Path.isLong (folder.child decimalsName).text = false := by
  have hnames : (Text.nameBytes decimalsName).length ≤ (Text.nameBytes arrayName).length := by
    decide
  simp only [Path.isLong, Path.text_child, Text.nameBytes, List.flatMap_append, List.length_append,
    decide_eq_false_iff_not, Nat.not_lt] at h hnames ⊢
  omega

/-- Both files are found where their paths say, with what was written. -/
theorem Ready.find?_withFiles (h : Ready t folder made place) (hplain : folder.Plain)
    (slots : List Value) :
    (withFiles made place slots).find? (folder.child arrayName).text =
        some (.file (.ofText (arrayText slots))) ∧
      (withFiles made place slots).find? (folder.child decimalsName).text =
        some (.file (.ofText (decimalsText slots))) := by
  have hgrows := h.grows_withFiles slots
  constructor
  · rw [Files.find?_child h.isMade hplain hgrows isStep_arrayName (by decide) (by decide) h.short,
      Files.entry?, withFiles, Files.file?_withFile, if_neg (child_decimalsName_ne place),
      Files.file?_withFile, if_pos rfl]
  · rw [Files.find?_child h.isMade hplain hgrows isStep_decimalsName (by decide) (by decide)
      (isLong_decimals h.short), Files.entry?, withFiles, Files.file?_withFile, if_pos rfl]

end Folder

/-! ## Calls -/

/-- What a call promises: it fails exactly for slots that make no request, for the reason that
these are refused, and if it fails then nothing is made or changed. -/
structure AllOrNothing (t : Files) (folder : Text) (slots : List Value) : Prop where
  fails_iff : ∀ e, (write t folder (.array slots)).2 = .error e ↔
    ∃ refusal, Encoding.decode slots = .error refusal ∧ e = .refused refusal
  unchanged : ∀ e, (write t folder (.array slots)).2 = .error e →
    (write t folder (.array slots)).1 = t

/-- Both files stand where their paths say, and each is read as the slots. -/
def Holds (t : Files) (folder : Path) (slots : List Value) : Prop :=
  ∃ array decimals, t.find? (pathsIn folder).array.text = some (.file array) ∧
    t.find? (pathsIn folder).decimals.text = some (.file decimals) ∧
    readArray? array = some (.array [.array slots]) ∧ readDecimals? decimals = some slots

/-- The tree after calls, one after the other. -/
def writeAll (t : Files) (folder : Text) (calls : List (List Value)) : Files :=
  calls.foldl (fun t slots => (write t folder (.array slots)).1) t

/-- The last slots of calls that make a request. -/
def lastDecoded? (calls : List (List Value)) : Option (List Value) :=
  (calls.filter fun slots => (Encoding.decode slots).isOk).getLast?

section Calls

variable {t : Files} {folder : Text} {slots : List Value} {calls : List (List Value)}

theorem write_of_refused {refusal : Encoding.Refusal}
    (h : Encoding.decode slots = .error refusal) :
    write t folder (.array slots) = (t, .error (.refused refusal)) := by
  have hvalue : Encoding.decodeValue (.array slots) = .error refusal := h
  rw [write, hvalue]

theorem write_of_decode {r : Request} {made : Files} {place : Place}
    (hready : Ready t (.ofText folder) made place) (h : Encoding.decode slots = .ok r) :
    write t folder (.array slots) =
      (withFiles made place slots, .ok (pathsIn (.ofText folder))) := by
  have hvalue : Encoding.decodeValue (.array slots) = .ok r := h
  have hslots : writeSlots t (.ofText folder) ((Value.array slots).iterate?.getD []) =
      (withFiles made place slots, .ok (pathsIn (.ofText folder))) :=
    writeSlots_eq_ok_iff.mpr ⟨made, place, hready, rfl, rfl⟩
  rw [write, hvalue]
  dsimp only
  rw [hslots]
  rfl

/-- A call keeps its promise, and leaves a folder that can be written into. -/
theorem Writable.step (h : Writable t (.ofText folder)) (slots : List Value) :
    AllOrNothing t folder slots ∧
      Writable (write t folder (.array slots)).1 (.ofText folder) := by
  cases hdecode : Encoding.decode slots with
  | error refusal =>
      rw [write_of_refused hdecode]
      refine ⟨⟨fun e => ?_, fun e he => ?_⟩, h⟩
      · rw [write_of_refused hdecode]
        simp [hdecode, eq_comm]
      · rw [write_of_refused hdecode]
  | ok r =>
      obtain ⟨made, place, hready⟩ := writable_iff_exists_ready.mp h
      rw [write_of_decode hready hdecode]
      refine ⟨⟨fun e => ?_, fun e he => ?_⟩, writable_iff_exists_ready.mpr ⟨_, _, hready.again slots⟩⟩
      · rw [write_of_decode hready hdecode]
        simp [hdecode]
      · rw [write_of_decode hready hdecode] at he
        cases he

theorem holds_of_decode {r : Request} (h : Writable t (.ofText folder))
    (hdecode : Encoding.decode slots = .ok r) :
    Holds (write t folder (.array slots)).1 (.ofText folder) slots := by
  obtain ⟨made, place, hready⟩ := writable_iff_exists_ready.mp h
  rw [write_of_decode hready hdecode]
  obtain ⟨harray, hdecimals⟩ := hready.find?_withFiles (Path.plain_ofText folder) slots
  exact ⟨_, _, harray, hdecimals, readArray?_arrayText hdecode, readDecimals?_decimalsText hdecode⟩

/-! ## Many calls -/

theorem writeAll_concat : writeAll t folder (calls ++ [slots]) =
    (write (writeAll t folder calls) folder (.array slots)).1 := List.foldl_concat ..

theorem lastDecoded?_concat : lastDecoded? (calls ++ [slots]) =
    if (Encoding.decode slots).isOk then some slots else lastDecoded? calls := by
  rw [lastDecoded?, List.filter_append, List.filter_singleton]
  cases (Encoding.decode slots).isOk with
  | true => exact List.getLast?_concat
  | false => exact congrArg List.getLast? (List.append_nil _)

theorem Writable.writeAll (h : Writable t (.ofText folder)) (calls : List (List Value)) :
    Writable (writeAll t folder calls) (.ofText folder) := by
  induction calls using List.reverseRecOn with
  | nil => exact h
  | append_singleton calls slots ih =>
      rw [writeAll_concat]
      exact (ih.step slots).2

/-- Behind any calls the files hold the last slots that made a request, or nothing was made. -/
theorem writeAll_lastDecoded? (h : Writable t (.ofText folder)) (calls : List (List Value)) :
    match lastDecoded? calls with
    | some slots => Holds (ProverInput.writeAll t folder calls) (.ofText folder) slots
    | none => ProverInput.writeAll t folder calls = t := by
  induction calls using List.reverseRecOn with
  | nil => rfl
  | append_singleton calls slots ih =>
      rw [writeAll_concat, lastDecoded?_concat]
      cases hdecode : Encoding.decode slots with
      | error refusal =>
          rw [write_of_refused hdecode]
          exact ih
      | ok r => exact holds_of_decode (h.writeAll calls) hdecode

/-- Both files are written or none.  In a folder that can be written into and has neither file,
every call fails exactly for slots that make no request, and then nothing is made or changed.
After all calls both files are read as the last slots that made a request; if there are none,
there are no such files. -/
theorem files_hold_last_decoded (h : Writable t (.ofText folder))
    (harray : t.find? (pathsIn (.ofText folder)).array.text = none)
    (hdecimals : t.find? (pathsIn (.ofText folder)).decimals.text = none)
    (calls : List (List Value)) :
    (∀ earlier slots, earlier ++ [slots] <+: calls →
      AllOrNothing (writeAll t folder earlier) folder slots) ∧
      match lastDecoded? calls with
      | some slots => Holds (writeAll t folder calls) (.ofText folder) slots
      | none =>
        (writeAll t folder calls).find? (pathsIn (.ofText folder)).array.text = none ∧
          (writeAll t folder calls).find? (pathsIn (.ofText folder)).decimals.text = none := by
  refine ⟨fun earlier slots _ => ((h.writeAll earlier).step slots).1, ?_⟩
  have hlast := writeAll_lastDecoded? h calls
  cases hdecoded : lastDecoded? calls with
  | some slots =>
      rw [hdecoded] at hlast
      exact hlast
  | none =>
      rw [hdecoded] at hlast
      rw [hlast]
      exact ⟨harray, hdecimals⟩

/-- Two requests, with slots that make none before, between and behind them: the folder is made
for the first request, and the files hold the second one. -/
theorem files_hold_last_decoded_between_refusals :
    let first : List Value := [.int 2, .int 7, .int 5, .int 0, .int 1, .int 0, .int 0]
    let second : List Value := [.int 2, .int 3, .int 4, .int 0, .int 1, .int 0, .int 1, .int 4]
    let calls := [[], first, [.bool true], second, second.take 7]
    Writable .empty (.ofText "out") ∧
      AllOrNothing (writeAll .empty "out" [[], first]) "out" [.bool true] ∧
      Holds (writeAll .empty "out" calls) (.ofText "out") second := by
  intro first second calls
  have hwritable : Writable .empty (.ofText "out") :=
    writable_iff_exists_ready.mpr
      ⟨⟨[], [["out"]]⟩, ["out"], by decide, by decide, by decide, by decide⟩
  obtain ⟨hcalls, hlast⟩ := files_hold_last_decoded hwritable (by decide) (by decide) calls
  have hdecoded : lastDecoded? calls = some second := rfl
  rw [hdecoded] at hlast
  exact ⟨hwritable, hcalls [[], first] [.bool true] ⟨[second, second.take 7], rfl⟩, hlast⟩

end Calls

end MountainRange.ProverInput
