import AccessGate.Proofs.Log.Files
import Mathlib.Data.List.TakeWhile

/-! # The file that a setting names

The log of a setting stands in the folder of the setting. Its name is that of the setting without its last suffix and
without what is then its suffix, with the suffix of log files behind it. So it is the name of the setting with its
suffix replaced unless that name ends in two suffixes, and settings that differ in the last two alone share a log. -/
namespace AccessGate

namespace Storage.Path
variable {name stem ending : List Char}

def stemOf (name : List Char) : List Char := renameSuffix name []

/-- `Suffixed name stem ending`: a name is its stem, a dot, and an ending without dots, neither of which is empty. -/
structure Suffixed (name stem ending : List Char) : Prop where
  name_eq : name = stem ++ '.' :: ending
  stem_ne : stem ≠ []
  ending_ne : ending ≠ []
  no_dot : '.' ∉ ending

/-- A name that ends in two suffixes: it has a suffix, and what is left without it has one, too. -/
def TwiceSuffixed (name : List Char) : Prop :=
  ∃ inner ending, Suffixed name inner ending ∧ ∃ stem middle, Suffixed inner stem middle

theorem forall_ne_dot (h : '.' ∉ name) : ∀ c ∈ name.reverse, decide (c ≠ '.') = true := by
  simpa [List.forall_mem_ne'] using h

theorem suffix_of_not_mem (h : '.' ∉ name) : suffix name = [] := by
  have htail : name.reverse.takeWhile (· ≠ '.') = name.reverse := List.takeWhile_eq_self_iff.mpr (forall_ne_dot h)
  simp only [suffix, htail, List.length_reverse, Nat.sub_self, Nat.zero_sub, Nat.lt_irrefl, decide_false,
    Bool.false_and, if_neg Bool.false_ne_true]

theorem suffix_append (h : '.' ∉ ending) :
    suffix (stem ++ '.' :: ending) = if stem ≠ [] ∧ ending ≠ [] then '.' :: ending else [] := by
  have hrev : (stem ++ '.' :: ending).reverse = ending.reverse ++ '.' :: stem.reverse := by simp
  have htail : (stem ++ '.' :: ending).reverse.takeWhile (· ≠ '.') = ending.reverse := by
    rw [hrev, List.takeWhile_append_of_pos (forall_ne_dot h), List.takeWhile_cons_of_neg (by simp),
      List.append_nil]
  have hstart : (stem ++ '.' :: ending).length - ending.length - 1 = stem.length := by
    rw [List.length_append, List.length_cons]
    omega
  simp only [suffix, htail, List.length_reverse, hstart, List.drop_left, Bool.and_eq_true, decide_eq_true_eq,
    List.length_pos_iff]

theorem Suffixed.suffix_eq (h : Suffixed name stem ending) : suffix name = '.' :: ending := by
  rw [h.name_eq, suffix_append h.no_dot, if_pos ⟨h.stem_ne, h.ending_ne⟩]

theorem suffix_eq_nil_or_suffixed (name : List Char) :
    suffix name = [] ∨ ∃ stem ending, Suffixed name stem ending := by
  by_cases hdot : '.' ∈ name
  · obtain ⟨last, first, hrev, hlast⟩ := List.eq_append_cons_of_mem (List.mem_reverse.mpr hdot)
    have hname : name = first.reverse ++ '.' :: last.reverse := by
      rw [← List.reverse_reverse name, hrev]
      simp
    have hlast' : '.' ∉ last.reverse := by simpa using hlast
    by_cases hparts : first.reverse ≠ [] ∧ last.reverse ≠ []
    · exact .inr ⟨_, _, hname, hparts.1, hparts.2, hlast'⟩
    · rw [hname, suffix_append hlast', if_neg hparts]
      exact .inl rfl
  · exact .inl (suffix_of_not_mem hdot)

theorem renameSuffix_eq (name new : List Char) : renameSuffix name new = stemOf name ++ new := by
  rw [stemOf, renameSuffix, renameSuffix, List.append_nil]

theorem stemOf_of_suffix_eq_nil (h : suffix name = []) : stemOf name = name := by
  simp [stemOf, renameSuffix, h]

theorem Suffixed.stemOf_eq (h : Suffixed name stem ending) : stemOf name = stem := by
  rw [stemOf, renameSuffix, h.suffix_eq, h.name_eq]
  simp

/-- A second suffix is dropped exactly when there are two. -/
theorem stemOf_stemOf_eq_iff : stemOf (stemOf name) = stemOf name ↔ ¬TwiceSuffixed name := by
  constructor
  · rintro hstem ⟨inner, ending, hname, stem, middle, hinner⟩
    rw [hname.stemOf_eq, hinner.stemOf_eq, hinner.name_eq] at hstem
    simp at hstem
  · intro hnot
    rcases suffix_eq_nil_or_suffixed (stemOf name) with hnil | ⟨stem, middle, hinner⟩
    · exact stemOf_of_suffix_eq_nil hnil
    · rcases suffix_eq_nil_or_suffixed name with hnil | ⟨inner, ending, hname⟩
      · rw [stemOf_of_suffix_eq_nil hnil, stemOf_of_suffix_eq_nil hnil]
      · rw [hname.stemOf_eq] at hinner
        exact absurd ⟨inner, ending, hname, stem, middle, hinner⟩ hnot

theorem withSuffix_eq_ok (root : List Char) (folder : List (List Char)) (name new : List Char) :
    withSuffix new ⟨root, folder ++ [name]⟩ = .ok ⟨root, folder ++ [stemOf name ++ new]⟩ := by
  simp [withSuffix, renameSuffix_eq]

theorem withSuffix_eq_error {p : Path} (h : p.names = []) (new : List Char) :
    withSuffix new p = .error (.namelessPath p.text) := by
  simp [withSuffix, h]

end Storage.Path

namespace Log
open Storage Storage.Path

theorem filePath_eq_ok (root : List Char) (folder : List (List Char)) (name : List Char) :
    filePath ⟨root, folder ++ [name]⟩ = .ok ⟨root, folder ++ [stemOf (stemOf name) ++ fileSuffix]⟩ := by
  rw [filePath, withSuffix_eq_ok]
  change withSuffix fileSuffix ⟨root, folder ++ [stemOf name ++ []]⟩ = _
  rw [List.append_nil, withSuffix_eq_ok]

namespace Book
variable {b b' : Book} {channel : String} {setting : Path}

def logPlace (b : Book) (setting : Path) : Except ValueFault Place :=
  (filePath setting).map fun file => (b.pathOf file).names

/-- The place of a setting when its suffix alone is replaced by that of log files. -/
def renamedPlace (b : Book) (setting : Path) : Except ValueFault Place :=
  (setting.withSuffix fileSuffix).map fun file => (b.pathOf file).names

theorem names_pathOf_concat (b : Book) (root : List Char) (folder : List (List Char)) {name : List Char}
    (h : name ≠ ['.', '.']) :
    (b.pathOf ⟨root, folder ++ [name]⟩).names = (b.pathOf ⟨root, folder⟩).names ++ [name] := by
  have habsolute : (Path.absolute ⟨root, folder ++ [name]⟩ b.disk.home).names =
      (Path.absolute ⟨root, folder⟩ b.disk.home).names ++ [name] := by
    unfold Path.absolute
    split <;> simp
  rw [pathOf, pathOf, Path.plain, Path.plain, habsolute, Path.plainNames, List.foldl_concat, if_neg h, Path.plainNames]

theorem append_fileSuffix_ne_dots (stem : List Char) : stem ++ fileSuffix ≠ ['.', '.'] := by
  intro heq
  have hlength := congrArg List.length heq
  simp [fileSuffix] at hlength

theorem logPlace_eq_ok (b : Book) (root : List Char) (folder : List (List Char)) (name : List Char) :
    b.logPlace ⟨root, folder ++ [name]⟩ =
      .ok ((b.pathOf ⟨root, folder⟩).names ++ [stemOf (stemOf name) ++ fileSuffix]) := by
  rw [logPlace, filePath_eq_ok, ← names_pathOf_concat b root folder (append_fileSuffix_ne_dots _)]
  rfl

theorem renamedPlace_eq_ok (b : Book) (root : List Char) (folder : List (List Char)) (name : List Char) :
    b.renamedPlace ⟨root, folder ++ [name]⟩ =
      .ok ((b.pathOf ⟨root, folder⟩).names ++ [stemOf name ++ fileSuffix]) := by
  rw [renamedPlace, withSuffix_eq_ok, ← names_pathOf_concat b root folder (append_fileSuffix_ne_dots _)]
  rfl

theorem logPlace_eq_renamedPlace_iff (b : Book) (setting : Path) :
    b.logPlace setting = b.renamedPlace setting ↔ ∀ name ∈ setting.names.getLast?, ¬TwiceSuffixed name := by
  obtain ⟨root, names⟩ := setting
  rcases List.eq_nil_or_concat names with rfl | ⟨folder, name, rfl⟩
  · have hnone : filePath ⟨root, []⟩ = withSuffix fileSuffix ⟨root, []⟩ := by
      rw [filePath, withSuffix_eq_error rfl, withSuffix_eq_error rfl]
      rfl
    simp [logPlace, renamedPlace, hnone]
  · rw [List.concat_eq_append, logPlace_eq_ok, renamedPlace_eq_ok, Except.ok.injEq, List.append_right_inj,
      List.singleton_inj, List.append_left_inj, stemOf_stemOf_eq_iff, List.getLast?_concat]
    simp

theorem logPlace_eq_logPlace_iff (b : Book) (root root' : List Char) (folder folder' : List (List Char))
    (name other : List Char) :
    b.logPlace ⟨root, folder ++ [name]⟩ = b.logPlace ⟨root', folder' ++ [other]⟩ ↔
      (b.pathOf ⟨root, folder⟩).names = (b.pathOf ⟨root', folder'⟩).names ∧
        stemOf (stemOf name) = stemOf (stemOf other) := by
  rw [logPlace_eq_ok, logPlace_eq_ok, Except.ok.injEq, List.append_singleton_inj, List.append_left_inj]

theorem timesHeld_of_openFile (hnew : b.handlers channel = []) {file : Path} (hfile : filePath setting = .ok file)
    (hopen : openFile channel setting b = .ok b') (other : Place) :
    b'.timesHeld channel other = if other = (b.pathOf file).names then 1 else 0 := by
  rcases openFile_eq_ok hfile hopen with ⟨hmem, _⟩ | ⟨_, disk, _, rfl⟩
  · rw [hnew] at hmem
    cases hmem
  · have hnone : ({ b with disk } : Book).timesHeld channel other = 0 := by
      rw [timesHeld]
      change List.countP _ (b.handlers channel) = 0
      rw [hnew, List.countP_nil]
    rw [timesHeld_addHandler, hnone, Nat.zero_add]
    simp [Handler.holds, eq_comm]

/-- The log of a setting is at the place of the setting with its suffix alone replaced exactly when its name does not
end in two suffixes. Two settings have one log exactly when their folders are at one place and their names agree when
each has lost its suffix and then once more its suffix. A channel that is opened for a setting writes each line to the
log of the setting, and to no other file. -/
theorem logPlace_of_setting (hb : b.Sound) :
    (∀ setting, b.logPlace setting = b.renamedPlace setting ↔
      ∀ name ∈ setting.names.getLast?, ¬TwiceSuffixed name) ∧
    (∀ root root' folder folder' name other,
      b.logPlace ⟨root, folder ++ [name]⟩ = b.logPlace ⟨root', folder' ++ [other]⟩ ↔
        (b.pathOf ⟨root, folder⟩).names = (b.pathOf ⟨root', folder'⟩).names ∧
          stemOf (stemOf name) = stemOf (stemOf other)) ∧
    ∀ channel setting b', b.handlers channel = [] → openFile channel setting b = .ok b' →
      ∃ place before, b.logPlace setting = .ok place ∧ b'.disk.bytesAt? place = some before ∧
        ∀ told other, (b'.tellAll channel told).disk.bytesAt? other = (b'.disk.bytesAt? other).map
          (· ++ if other = place then told.flatMap fun t => lineBytes (t.2.line t.1) else []) := by
  refine ⟨b.logPlace_eq_renamedPlace_iff, b.logPlace_eq_logPlace_iff, ?_⟩
  intro channel setting b' hnew hopen
  obtain ⟨file, hfile⟩ := filePath_of_openFile hopen
  have hmem : .file (b.pathOf file) ∈ b'.handlers channel := mem_handlers_openFile hb hfile hopen
  obtain ⟨before, hbefore⟩ := ((hb.openFile hopen).files channel _ hmem).2
  refine ⟨(b.pathOf file).names, before, ?_, hbefore, ?_⟩
  · rw [logPlace, hfile]
    rfl
  · intro told other
    rw [bytesAt?_tellAll, timesHeld_of_openFile hnew hfile hopen]
    by_cases hplace : other = (b.pathOf file).names
    · simp [hplace]
    · have hnothing : (told.flatMap fun _ => ([] : List UInt8)) = [] :=
        List.flatMap_eq_nil_iff.mpr fun _ _ => rfl
      simp [hplace, hnothing]

section Sample

/-- Settings whose names differ before the last suffix have one log, and it is at neither of the places that their
names have with that suffix replaced. -/
theorem settings_share_log :
    stemOf "a.b.log".toList ≠ stemOf "a.c.log".toList ∧
    logPlace { disk := bareDisk } (.ofChars "a.b.log".toList) = .ok [['w'], "a.jsonl".toList] ∧
    logPlace { disk := bareDisk } (.ofChars "a.c.log".toList) = .ok [['w'], "a.jsonl".toList] ∧
    renamedPlace { disk := bareDisk } (.ofChars "a.b.log".toList) = .ok [['w'], "a.b.jsonl".toList] ∧
    renamedPlace { disk := bareDisk } (.ofChars "a.c.log".toList) = .ok [['w'], "a.c.jsonl".toList] := by
  decide

/-- A name with one suffix in a folder with dots, two spellings of one folder, and a channel that is opened. -/
theorem logPlace_of_setting_sample : Sound { disk := bareDisk } ∧
    logPlace { disk := bareDisk } (.ofChars "logs.d.e/gate.log".toList) =
      renamedPlace { disk := bareDisk } (.ofChars "logs.d.e/gate.log".toList) ∧
    logPlace { disk := bareDisk } ⟨[], [['x'], ['.', '.']] ++ ["gate.log".toList]⟩ =
      logPlace { disk := bareDisk } ⟨['/'], [['w']] ++ ["gate.a.b".toList]⟩ ∧
    ∃ b place before, openFile "gate" (.ofChars "gate.log".toList) { disk := bareDisk } = .ok b ∧
      logPlace { disk := bareDisk } (.ofChars "gate.log".toList) = .ok place ∧
      b.disk.bytesAt? place = some before ∧
      (b.tellAll "gate" [("T", .message "a")]).disk.bytesAt? place =
        some (before ++ lineBytes (Event.line "T" (.message "a"))) := by
  obtain ⟨hnamed, hshared, hwritten⟩ := logPlace_of_setting sound_bareDisk
  refine ⟨sound_bareDisk, (hnamed _).mpr ?_, (hshared _ _ _ _ _ _).mpr (by decide), ?_⟩
  · intro name hname
    obtain rfl : "gate.log".toList = name := Option.some.inj hname
    exact stemOf_stemOf_eq_iff.mp (by decide)
  · obtain ⟨b, hopen⟩ : ∃ b, openFile "gate" (.ofChars "gate.log".toList) { disk := bareDisk } = .ok b :=
      ⟨_, rfl⟩
    obtain ⟨place, before, hplace, hbefore, htold⟩ := hwritten _ _ b rfl hopen
    refine ⟨b, place, before, hopen, hplace, hbefore, ?_⟩
    rw [htold, hbefore, if_pos rfl]
    simp

end Sample

end Book
end Log
end AccessGate
