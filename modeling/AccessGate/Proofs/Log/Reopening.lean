import AccessGate.Proofs.Log.Lines
import Mathlib.Data.List.Pairwise

/-! # A channel that is opened again

A channel knows its files by their plain paths, and looks for a file under the path that it is opened by, as this is
written. So a file that is opened again is found unless its path has names of two dots in it or starts from another
root, and each time it is not found the channel gets one more handler for it. -/
namespace AccessGate.Log.Book

open Storage

section Spelling

/-- How many handlers a channel has for the file at a place when it was opened by some paths, of which the latest
comes first: one for each path to the place that is not the plain path of an earlier one. -/
def copies (place : Place) : List Path → Nat
  | [] => 0
  | path :: earlier =>
    copies place earlier + if path.plain.names = place ∧ path ∉ earlier.map Path.plain then 1 else 0

/-- A file that was opened before is opened by the plain path of the earlier one. The latest path comes first. -/
def SpelledAsKnown (paths : List Path) : Prop :=
  paths.Pairwise fun later earlier => earlier.plain.names = later.plain.names → later = earlier.plain

variable {place : Place} {path : Path} {paths : List Path}

theorem names_of_mem_map_plain (h : path ∈ paths.map Path.plain) :
    ∃ p ∈ paths, p.plain.names = path.plain.names := by
  obtain ⟨p, hp, rfl⟩ := List.mem_map.mp h
  exact ⟨p, hp, by rw [Path.plain_plain]⟩

theorem copies_pos_iff : 0 < copies place paths ↔ ∃ p ∈ paths, p.plain.names = place := by
  induction paths with
  | nil => simp [copies]
  | cons path earlier ih =>
    rw [List.exists_mem_cons_iff, ← ih, copies]
    by_cases hknown : path ∈ earlier.map Path.plain
    · rw [if_neg fun hnew => hnew.2 hknown, Nat.add_zero, or_iff_right_of_imp]
      intro hplace
      exact ih.mpr (hplace ▸ names_of_mem_map_plain hknown)
    · by_cases hplace : path.plain.names = place
      · simp [hplace, hknown]
      · simp [hplace]

theorem copies_eq_zero_iff : copies place paths = 0 ↔ ∀ p ∈ paths, p.plain.names ≠ place := by
  rw [← not_iff_not, ← ne_eq, ← Nat.pos_iff_ne_zero, copies_pos_iff]
  simp

theorem SpelledAsKnown.plain_eq (h : SpelledAsKnown paths) {p q : Path} (hp : p ∈ paths) (hq : q ∈ paths)
    (hsame : p.plain.names = q.plain.names) : p.plain = q.plain := by
  let R (p q : Path) : Prop := p.plain.names = q.plain.names → p.plain = q.plain
  have : Std.Symm R := ⟨fun p q hpq hsame => (hpq hsame.symm).symm⟩
  have hpairs : paths.Pairwise R := by
    apply h.imp
    intro later earlier hknown hsame
    rw [hknown hsame.symm, Path.plain_plain]
  exact hpairs.forall_of_forall (fun p _ _ => rfl) hp hq hsame

theorem copies_le_one_iff : (∀ place, copies place paths ≤ 1) ↔ SpelledAsKnown paths := by
  induction paths with
  | nil => simp [copies, SpelledAsKnown]
  | cons path earlier ih =>
    rw [SpelledAsKnown, List.pairwise_cons, ← SpelledAsKnown, ← ih]
    constructor
    · intro h
      have hearlier : ∀ place, copies place earlier ≤ 1 := fun place => (Nat.le_add_right _ _).trans (h place)
      refine ⟨?_, hearlier⟩
      intro p hp hsame
      have hpos : 0 < copies path.plain.names earlier := copies_pos_iff.mpr ⟨p, hp, hsame⟩
      have hle := h path.plain.names
      -- There is room for one handler only, so the path is the plain one of an earlier path.
      have hknown : path ∈ earlier.map Path.plain := by
        by_contra hnew
        rw [copies, if_pos ⟨rfl, hnew⟩] at hle
        omega
      obtain ⟨q, hq, rfl⟩ := List.mem_map.mp hknown
      rw [Path.plain_plain] at hsame
      exact (ih.mp hearlier).plain_eq hq hp hsame.symm
    · intro h place
      obtain ⟨hlatest, hearlier⟩ := h
      rw [copies]
      split
      · rename_i hnew
        obtain ⟨rfl, hnew⟩ := hnew
        have hzero : copies path.plain.names earlier = 0 := by
          refine copies_eq_zero_iff.mpr fun p hp hsame => hnew ?_
          rw [hlatest p hp hsame]
          exact List.mem_map_of_mem hp
        rw [hzero]
      · exact hearlier place

theorem copies_eq_one_iff : (∀ p ∈ paths, copies p.plain.names paths = 1) ↔ SpelledAsKnown paths := by
  rw [← copies_le_one_iff]
  constructor
  · intro h place
    rcases Nat.eq_zero_or_pos (copies place paths) with hzero | hpos
    · omega
    · obtain ⟨p, hp, rfl⟩ := copies_pos_iff.mp hpos
      exact (h p hp).le
  · intro h p hp
    exact Nat.le_antisymm (h _) (copies_pos_iff.mpr ⟨p, hp, rfl⟩)

end Spelling

section Opening
variable {b b' : Book} {channel : String} {setting file : Path} {paths : List Path} {f : Failure}

def Use.opening (channel : String) : Option Path → Use
  | none => .openSilent channel
  | some setting => .openFile channel setting

def openAll (channel : String) (settings : List (Option Path)) (b : Book) : Book :=
  (settings.map (Use.opening channel)).foldl use b

/-- The path from the root, as it is written, for which a channel is opened, if it is opened for a file. -/
def pathOpened? (channel : String) (setting : Option Path) (b : Book) : Option Path := do
  let setting ← setting
  let file ← (filePath setting).toOption
  let _ ← (openFile channel setting b).toOption
  return file.absolute b.disk.home

theorem pathOpened?_eq_none (hopen : openFile channel setting b = .error f) :
    pathOpened? channel (some setting) b = none := by
  cases hfile : filePath setting <;> simp [pathOpened?, hfile, hopen, Except.toOption]

theorem pathOpened?_eq_some (hfile : filePath setting = .ok file) (hopen : openFile channel setting b = .ok b') :
    pathOpened? channel (some setting) b = some (file.absolute b.disk.home) := by
  simp [pathOpened?, hfile, hopen, Except.toOption]

/-- The paths for which a channel is opened time after time, where it was opened for the earlier ones before. The
latest comes first. -/
def pathsOpened (channel : String) : List (Option Path) → Book → List Path → List Path
  | [], _, earlier => earlier
  | setting :: rest, b, earlier =>
    pathsOpened channel rest (b.use (.opening channel setting))
      ((pathOpened? channel setting b).toList ++ earlier)

def Use.pathOpened? (channel : String) (b : Book) : Use → Option Path
  | .openFile other setting => if other = channel then Book.pathOpened? channel (some setting) b else none
  | .openSilent _ | .enter _ _ => none

/-- The paths for which a channel is opened while a log is used, where it was opened for the earlier ones before. The
latest comes first. -/
def pathsOpenedBy (channel : String) : List Use → Book → List Path → List Path
  | [], _, earlier => earlier
  | u :: rest, b, earlier => pathsOpenedBy channel rest (b.use u) ((u.pathOpened? channel b).toList ++ earlier)

theorem pathsOpened_eq (channel : String) (settings : List (Option Path)) (b : Book) (earlier : List Path) :
    pathsOpened channel settings b earlier =
      pathsOpenedBy channel (settings.map (Use.opening channel)) b earlier := by
  induction settings generalizing b earlier with
  | nil => rfl
  | cons setting rest ih =>
    have hpath : (Use.opening channel setting).pathOpened? channel b = pathOpened? channel setting b := by
      cases setting with
      | none => rfl
      | some setting => exact if_pos rfl
    rw [pathsOpened, ih, List.map_cons, pathsOpenedBy, hpath]

/-- A channel was opened for some paths, of which the latest comes first: these are the files that it holds, each as
many times as there are copies of it. -/
structure OpenedFor (channel : String) (paths : List Path) (b : Book) : Prop where
  sound : b.Sound
  mem_iff : ∀ path, .file path ∈ b.handlers channel ↔ path ∈ paths.map Path.plain
  timesHeld_eq : ∀ place, b.timesHeld channel place = copies place paths

theorem openedFor_new {disk : Disk} (h : disk.home.root ≠ []) (channel : String) : OpenedFor channel [] { disk } := by
  constructor
  · exact sound_new h
  · intro path
    exact iff_of_false List.not_mem_nil List.not_mem_nil
  · intro place
    rfl

theorem OpenedFor.congr (h : OpenedFor channel paths b) (hsound : b'.Sound)
    (hheld : ∀ path, .file path ∈ b'.handlers channel ↔ .file path ∈ b.handlers channel)
    (htimes : ∀ place, b'.timesHeld channel place = b.timesHeld channel place) : OpenedFor channel paths b' := by
  constructor
  · exact hsound
  · intro path
    rw [hheld, h.mem_iff]
  · intro place
    rw [htimes, h.timesHeld_eq]

theorem OpenedFor.of_handlers_eq (h : OpenedFor channel paths b) (hsound : b'.Sound)
    (hhandlers : b'.handlers channel = b.handlers channel) : OpenedFor channel paths b' := by
  apply h.congr hsound
  · intro path
    rw [hhandlers]
  · intro place
    rw [timesHeld, hhandlers, timesHeld]

theorem OpenedFor.addHandler_discard (h : OpenedFor channel paths b) (other : String) :
    OpenedFor channel paths (b.addHandler other .discard) := by
  apply h.congr (h.sound.addHandler_discard other)
  · intro path
    by_cases hsame : channel = other <;> simp [handlers_addHandler, hsame]
  · intro place
    by_cases hsame : channel = other <;> simp [timesHeld, handlers_addHandler, hsame, Handler.holds]

theorem OpenedFor.openSilent (h : OpenedFor channel paths b) (other : String) :
    OpenedFor channel paths (b.openSilent other) := by
  rw [Book.openSilent]
  split
  · exact h.addHandler_discard other
  · exact h

theorem OpenedFor.openFile (h : OpenedFor channel paths b) (hfile : filePath setting = .ok file)
    (hopen : openFile channel setting b = .ok b') :
    OpenedFor channel (file.absolute b.disk.home :: paths) b' := by
  have hsound : b'.Sound := h.sound.openFile hopen
  rcases openFile_eq_ok hfile hopen with ⟨hmem, rfl⟩ | ⟨hnew, disk, _, rfl⟩
  · -- The file is known by this very path, which is plain for that reason.
    have hplain : (file.absolute b'.disk.home).plain = file.absolute b'.disk.home :=
      (h.sound.files channel _ hmem).1.plain_eq
    have hknown := (h.mem_iff _).mp hmem
    constructor
    · exact hsound
    · intro path
      rw [List.map_cons, hplain, List.mem_cons, h.mem_iff, or_iff_right_of_imp]
      rintro rfl
      exact hknown
    · intro place
      rw [h.timesHeld_eq, copies, if_neg (fun hcopy => hcopy.2 hknown), Nat.add_zero]
  · have hnew' := (h.mem_iff _).not.mp hnew
    constructor
    · exact hsound
    · intro path
      have hold : .file path ∈ ({ b with disk } : Book).handlers channel ↔ path ∈ paths.map Path.plain :=
        h.mem_iff path
      rw [handlers_addHandler, if_pos rfl, List.mem_append, hold, List.mem_singleton, Handler.file.injEq,
        List.map_cons, List.mem_cons, or_comm, pathOf]
    · intro place
      have hold : ({ b with disk } : Book).timesHeld channel place = copies place paths := h.timesHeld_eq place
      have hholds : (Handler.file (b.pathOf file)).holds place = true ↔
          (file.absolute b.disk.home).plain.names = place ∧ file.absolute b.disk.home ∉ paths.map Path.plain := by
        rw [Handler.holds, decide_eq_true_iff, and_iff_left hnew', pathOf]
      simp only [timesHeld_addHandler, hold, copies, hholds]

theorem OpenedFor.use (h : OpenedFor channel paths b) (u : Use) :
    OpenedFor channel ((u.pathOpened? channel b).toList ++ paths) (b.use u) := by
  cases u with
  | openSilent other => exact h.openSilent other
  | enter other x => exact h.of_handlers_eq (h.sound.enter other x) (handlers_enter _ _ _ _)
  | openFile other setting =>
    by_cases hother : channel = other
    · subst hother
      rw [Use.pathOpened?, if_pos rfl, Book.use]
      cases hopen : Book.openFile channel setting b with
      | error f =>
        rw [pathOpened?_eq_none hopen]
        exact h
      | ok opened =>
        obtain ⟨file, hfile⟩ := filePath_of_openFile hopen
        rw [pathOpened?_eq_some hfile hopen]
        exact h.openFile hfile hopen
    · rw [Use.pathOpened?, if_neg (Ne.symm hother), Book.use]
      cases hopen : Book.openFile other setting b with
      | error f => exact h
      | ok opened => exact h.of_handlers_eq (h.sound.openFile hopen) (handlers_openFile_other hother hopen)

/-- Whatever a log is used for, a channel holds the files for which it was opened. -/
theorem OpenedFor.useAll (h : OpenedFor channel paths b) (uses : List Use) :
    OpenedFor channel (pathsOpenedBy channel uses b paths) (uses.foldl Book.use b) := by
  induction uses generalizing b paths with
  | nil => exact h
  | cons u rest ih => exact ih (h.use u)

theorem OpenedFor.openAll (h : OpenedFor channel paths b) (settings : List (Option Path)) :
    OpenedFor channel (pathsOpened channel settings b paths) (b.openAll channel settings) := by
  rw [pathsOpened_eq, Book.openAll]
  exact h.useAll _

end Opening

section Telling

theorem lineBytes_ne_nil (line : String) : lineBytes line ≠ [] := by
  rw [lineBytes_eq, List.flatMap_append]
  exact List.append_ne_nil_of_right_ne_nil _ (by decide)

theorem flatten_replicate_lineBytes_eq_iff {n : Nat} {line : String} :
    (List.replicate n (lineBytes line)).flatten = lineBytes line ↔ n = 1 := by
  constructor
  · intro h
    have hlength := congrArg List.length h
    rw [List.length_flatten, List.map_replicate, List.sum_replicate_nat] at hlength
    have hpos : 0 < (lineBytes line).length := List.length_pos_iff.mpr (lineBytes_ne_nil line)
    exact Nat.eq_of_mul_eq_mul_right hpos (hlength.trans (Nat.one_mul _).symm)
  · rintro rfl
    simp

theorem OpenedFor.exists_bytesAt? {channel : String} {paths : List Path} {b : Book} (h : OpenedFor channel paths b)
    {path : Path} (hpath : path ∈ paths) : ∃ bytes, b.disk.bytesAt? path.plain.names = some bytes := by
  have hmem : .file path.plain ∈ b.handlers channel := (h.mem_iff _).mpr (List.mem_map_of_mem hpath)
  exact (h.sound.files channel _ hmem).2

/-- A channel is opened time after time, and then events are told on it. A file gets as many copies of each line as
there are paths to it, among those for which the channel was opened, that are not the plain path of an earlier one. So
each file for which the channel was opened gets each line once, and the channel holds no file twice, exactly when the
files that were opened before are opened by the paths under which they are known. -/
theorem told_once_iff_spelledAsKnown {disk : Disk} (hhome : disk.home.root ≠ []) (channel : String)
    (settings : List (Option Path)) :
    let b := openAll channel settings { disk }
    let paths := pathsOpened channel settings { disk } []
    (∀ told place, (b.tellAll channel told).disk.bytesAt? place = (b.disk.bytesAt? place).map (· ++ told.flatMap
      fun t => (List.replicate (copies place paths) (lineBytes (t.2.line t.1))).flatten)) ∧
    ((∀ p ∈ paths, ∀ told, ∃ before, b.disk.bytesAt? p.plain.names = some before ∧
      (b.tellAll channel told).disk.bytesAt? p.plain.names =
        some (before ++ told.flatMap fun t => lineBytes (t.2.line t.1))) ↔ SpelledAsKnown paths) ∧
    ((∀ place, b.timesHeld channel place ≤ 1) ↔ SpelledAsKnown paths) := by
  intro b paths
  have hopened : OpenedFor channel paths b := (openedFor_new hhome channel).openAll settings
  have htold (told : List (String × Event)) (place : Place) : (b.tellAll channel told).disk.bytesAt? place =
      (b.disk.bytesAt? place).map (· ++ told.flatMap fun t =>
        (List.replicate (copies place paths) (lineBytes (t.2.line t.1))).flatten) := by
    rw [bytesAt?_tellAll, hopened.timesHeld_eq]
  refine ⟨htold, ?_, ?_⟩
  · rw [← copies_eq_one_iff]
    constructor
    · intro honce p hp
      obtain ⟨before, hbefore, hafter⟩ := honce p hp [("", .message "")]
      rw [htold, hbefore, Option.map_some, Option.some.injEq, List.append_right_inj, List.flatMap_singleton,
        List.flatMap_singleton] at hafter
      exact flatten_replicate_lineBytes_eq_iff.mp hafter
    · intro hcopies p hp told
      obtain ⟨before, hbefore⟩ := hopened.exists_bytesAt? hp
      refine ⟨before, hbefore, ?_⟩
      simp only [htold, hbefore, hcopies p hp, flatten_replicate_lineBytes_eq_iff.mpr, Option.map_some]
  · rw [← copies_le_one_iff]
    simp only [hopened.timesHeld_eq]

end Telling

section Sample

def dottedSetting : Path := .ofChars "x/../gate.log".toList

/-- A channel that is opened twice by a path with two dots holds its file twice, and each line is written twice. -/
theorem dotted_path_doubles :
    pathsOpened "gate" [some dottedSetting, some dottedSetting] { disk := bareDisk } [] =
      [.ofChars "/w/x/../gate.jsonl".toList, .ofChars "/w/x/../gate.jsonl".toList] ∧
    (openAll "gate" [some dottedSetting, some dottedSetting] { disk := bareDisk }).timesHeld "gate"
      [['w'], "gate.jsonl".toList] = 2 ∧
    ∀ time e, ((openAll "gate" [some dottedSetting, some dottedSetting] { disk := bareDisk }).tell
      "gate" time e).disk.bytesAt? [['w'], "gate.jsonl".toList] =
        some (lineBytes (e.line time) ++ lineBytes (e.line time)) ∧ lineBytes (e.line time) ≠ [] := by
  have hheld : (openAll "gate" [some dottedSetting, some dottedSetting] { disk := bareDisk }).timesHeld "gate"
      [['w'], "gate.jsonl".toList] = 2 := rfl
  refine ⟨rfl, hheld, fun time e => ⟨?_, lineBytes_ne_nil _⟩⟩
  have hempty : (openAll "gate" [some dottedSetting, some dottedSetting] { disk := bareDisk }).disk.bytesAt?
      [['w'], "gate.jsonl".toList] = some [] := rfl
  rw [bytesAt?_tell, hheld, hempty]
  simp [List.replicate_succ]

def sampleTold : List (String × Event) := [("T", .message "a\n\""), ("T", .rulesLoaded "b" 7)]

/-- The same file under several spellings, the channel without a file, a setting without a name, and another file. -/
def sampleSettings : List (Option Path) :=
  [none, some dottedSetting, some (.ofChars "gate.txt".toList), some (.ofChars ['/']),
    some (.ofChars "./gate".toList), some (.ofChars "other.log".toList), some (.ofChars "/w//gate.log".toList)]

theorem told_once_iff_spelledAsKnown_sample : bareDisk.home.root ≠ [] ∧
    ∃ before, (openAll "gate" sampleSettings { disk := bareDisk }).disk.bytesAt? [['w'], "gate.jsonl".toList] =
        some before ∧
      ((openAll "gate" sampleSettings { disk := bareDisk }).tellAll "gate" sampleTold).disk.bytesAt?
        [['w'], "gate.jsonl".toList] = some (before ++ sampleTold.flatMap fun t => lineBytes (t.2.line t.1)) := by
  have hhome : bareDisk.home.root ≠ [] := by decide
  have hknown : SpelledAsKnown (pathsOpened "gate" sampleSettings { disk := bareDisk } []) := by
    unfold SpelledAsKnown
    decide
  have hmem : Path.ofChars "/w/gate.jsonl".toList ∈ pathsOpened "gate" sampleSettings { disk := bareDisk } [] := by
    decide
  have honce := (told_once_iff_spelledAsKnown hhome "gate" sampleSettings).2.1.mpr hknown _ hmem sampleTold
  exact ⟨hhome, honce⟩

end Sample
end AccessGate.Log.Book
