import AccessGate.Log.Book
import AccessGate.Proofs.Storage.Disk

/-! # The files of a log

Each handler of a channel writes every line of the channel at the end of its file, and a file that a handler writes
to is there. So a file grows by as many copies of a line as the channel holds handlers for it. -/
namespace AccessGate.Log

open Storage

def Handler.holds (place : Place) : Handler → Bool
  | .discard => false
  | .file path => path.names = place

namespace Book
variable {b b' : Book} {channel other time line : String} {h : Handler} {setting file : Path} {place : Place}

/-- How many handlers of a channel write to the file at a place. -/
def timesHeld (b : Book) (channel : String) (place : Place) : Nat :=
  (b.handlers channel).countP (Handler.holds place)

/-- The path under which a handler knows a file. -/
def pathOf (b : Book) (file : Path) : Path := (file.absolute b.disk.home).plain

section Telling

theorem bytesAt?_foldl_handle (handlers : List Handler) (b : Book) :
    (handlers.foldl (handle line) b).disk.bytesAt? place = (b.disk.bytesAt? place).map
      (· ++ (List.replicate (handlers.countP (Handler.holds place)) (lineBytes line)).flatten) := by
  induction handlers generalizing b with
  | nil => simp
  | cons h rest ih =>
    rw [List.foldl_cons, ih]
    cases h with
    | discard => simp [handle, Handler.holds]
    | file path =>
      by_cases hplace : path.names = place
      · subst hplace
        simp [handle, Handler.holds, Disk.bytesAt?_append, List.replicate_succ, Function.comp_def]
      · simp [handle, Handler.holds, Disk.bytesAt?_append_other (Ne.symm hplace), hplace]

theorem channels_foldl_handle (handlers : List Handler) (b : Book) :
    (handlers.foldl (handle line) b).channels = b.channels := by
  induction handlers generalizing b with
  | nil => rfl
  | cons h rest ih =>
    rw [List.foldl_cons, ih]
    cases h <;> rfl

theorem home_foldl_handle (handlers : List Handler) (b : Book) :
    (handlers.foldl (handle line) b).disk.home = b.disk.home := by
  induction handlers generalizing b with
  | nil => rfl
  | cons h rest ih =>
    rw [List.foldl_cons, ih]
    cases h with
    | discard => rfl
    | file path => exact Disk.home_append _ _ _

theorem handlers_tell (channel other time : String) (e : Event) (b : Book) :
    (b.tell channel time e).handlers other = b.handlers other := by
  rw [handlers, tell, channels_foldl_handle, handlers]

theorem handlers_enter (channel other : String) (x : Note) (b : Book) :
    (b.enter channel x).handlers other = b.handlers other := by
  rw [enter]
  split
  · exact handlers_tell _ _ _ _ _
  · rfl

/-- A file grows by a copy of the line for each handler that writes to it. -/
theorem bytesAt?_tell (channel time : String) (e : Event) (b : Book) (place : Place) :
    (b.tell channel time e).disk.bytesAt? place = (b.disk.bytesAt? place).map
      (· ++ (List.replicate (b.timesHeld channel place) (lineBytes (e.line time))).flatten) :=
  bytesAt?_foldl_handle _ b

def tellAll (channel : String) (told : List (String × Event)) (b : Book) : Book :=
  told.foldl (fun b t => b.tell channel t.1 t.2) b

def enterAll (channel : String) (notes : List Note) (b : Book) : Book :=
  notes.foldl (fun b x => b.enter channel x) b

theorem enter_eq (channel : String) (x : Note) (b : Book) :
    b.enter channel x = if x.level ≠ .debug then b.tell channel x.time x.event else b := by
  obtain ⟨time, level, e⟩ := x
  cases level <;> rfl

theorem enterAll_eq_tellAll (channel : String) (notes : List Note) (b : Book) :
    b.enterAll channel notes =
      b.tellAll channel ((notes.filter (·.level ≠ .debug)).map fun x => (x.time, x.event)) := by
  induction notes generalizing b with
  | nil => rfl
  | cons x rest ih =>
    rw [enterAll, List.foldl_cons, ← enterAll, ih, enter_eq, List.filter_cons]
    by_cases hlevel : x.level = .debug
    · simp [hlevel]
    · simp [hlevel, tellAll]

theorem bytesAt?_tellAll (channel : String) (told : List (String × Event)) (b : Book) (place : Place) :
    (b.tellAll channel told).disk.bytesAt? place = (b.disk.bytesAt? place).map (· ++ told.flatMap fun t =>
      (List.replicate (b.timesHeld channel place) (lineBytes (t.2.line t.1))).flatten) := by
  induction told generalizing b with
  | nil => simp [tellAll]
  | cons t rest ih =>
    have hheld : (b.tell channel t.1 t.2).timesHeld channel place = b.timesHeld channel place := by
      rw [timesHeld, handlers_tell, timesHeld]
    change ((b.tell channel t.1 t.2).tellAll channel rest).disk.bytesAt? place = _
    rw [ih, bytesAt?_tell, hheld]
    cases b.disk.bytesAt? place <;> simp

end Telling

section Opening

theorem handlers_addHandler (channel other : String) (h : Handler) (b : Book) :
    (b.addHandler channel h).handlers other =
      if other = channel then b.handlers channel ++ [h] else b.handlers other := by
  by_cases hsame : other = channel
  · simp [handlers, addHandler, Keyed.lookup_put, hsame]
  · simp [handlers, addHandler, Keyed.lookup_put, hsame]

theorem timesHeld_addHandler (channel : String) (h : Handler) (b : Book) (place : Place) :
    (b.addHandler channel h).timesHeld channel place =
      b.timesHeld channel place + if h.holds place then 1 else 0 := by
  rw [timesHeld, handlers_addHandler, if_pos rfl, List.countP_append, timesHeld]
  simp

theorem any_writesTo_iff {handlers : List Handler} {path : Path} :
    handlers.any (Handler.writesTo path) = true ↔ .file path ∈ handlers := by
  rw [List.any_eq_true]
  constructor
  · intro hany
    obtain ⟨h, hmem, hwrites⟩ := hany
    cases h with
    | discard => cases hwrites
    | file other =>
      obtain rfl : other = path := by simpa [Handler.writesTo] using hwrites
      exact hmem
  · intro hmem
    exact ⟨_, hmem, by simp [Handler.writesTo]⟩

theorem openFile_eq_ok (hfile : filePath setting = .ok file) (hopen : openFile channel setting b = .ok b') :
    (.file (file.absolute b.disk.home) ∈ b.handlers channel ∧ b' = b) ∨
      .file (file.absolute b.disk.home) ∉ b.handlers channel ∧
        ∃ disk, b.disk.openToWrite (b.pathOf file) = .ok disk ∧
          b' = { b with disk }.addHandler channel (.file (b.pathOf file)) := by
  rw [openFile, hfile] at hopen
  change (if _ then _ else _) = _ at hopen
  split at hopen
  · exact .inl ⟨any_writesTo_iff.mp ‹_›, (pure_eq_ok_iff.mp hopen).symm⟩
  · rename_i hnew
    obtain ⟨disk, hdisk, hadd⟩ := bind_eq_ok_iff.mp hopen
    exact .inr ⟨fun hmem => hnew (any_writesTo_iff.mpr hmem), disk, hdisk, (pure_eq_ok_iff.mp hadd).symm⟩

theorem filePath_of_openFile (hopen : openFile channel setting b = .ok b') : ∃ file, filePath setting = .ok file := by
  obtain ⟨file, hfile, _⟩ := bind_eq_ok_iff.mp hopen
  exact ⟨file, mapError_eq_ok_iff.mp hfile⟩

theorem handlers_openFile_other (hother : other ≠ channel) (hopen : openFile channel setting b = .ok b') :
    b'.handlers other = b.handlers other := by
  obtain ⟨file, hfile⟩ := filePath_of_openFile hopen
  rcases openFile_eq_ok hfile hopen with ⟨_, rfl⟩ | ⟨_, disk, _, rfl⟩
  · rfl
  · rw [handlers_addHandler, if_neg hother]
    rfl

/-- The files that handlers write to are there, under plain paths. -/
structure Sound (b : Book) : Prop where
  home : b.disk.home.root ≠ []
  files : ∀ channel path, .file path ∈ b.handlers channel →
    path.IsPlain ∧ ∃ bytes, b.disk.bytesAt? path.names = some bytes

theorem sound_new {disk : Disk} (h : disk.home.root ≠ []) : Sound { disk } := by
  constructor
  · exact h
  · intro channel path hmem
    cases hmem

theorem Sound.addHandler_discard (hb : b.Sound) (channel : String) : (b.addHandler channel .discard).Sound := by
  constructor
  · exact hb.home
  · intro other path hmem
    rw [handlers_addHandler] at hmem
    split at hmem
    · exact hb.files channel path (by simpa using hmem)
    · exact hb.files other path hmem

theorem Sound.openSilent (hb : b.Sound) (channel : String) : (b.openSilent channel).Sound := by
  unfold Book.openSilent
  split
  · exact hb.addHandler_discard channel
  · exact hb

theorem Sound.openFile (hb : b.Sound) (hopen : openFile channel setting b = .ok b') : b'.Sound := by
  obtain ⟨file, hfile⟩ := filePath_of_openFile hopen
  have hplain : (b.pathOf file).IsPlain := Path.isPlain_plain (Path.root_absolute hb.home)
  rcases openFile_eq_ok hfile hopen with ⟨_, rfl⟩ | ⟨_, disk, hdisk, rfl⟩
  · exact hb
  · obtain ⟨hhome, hthere, hkept⟩ := Disk.openToWrite_eq_ok hplain hdisk
    have hold : ∀ channel path, .file path ∈ b.handlers channel →
        path.IsPlain ∧ ∃ bytes, disk.bytesAt? path.names = some bytes := by
      intro channel path hmem
      obtain ⟨hpath, bytes, hbytes⟩ := hb.files channel path hmem
      exact ⟨hpath, bytes, hkept _ _ hbytes⟩
    constructor
    · change disk.home.root ≠ []
      rw [hhome]
      exact hb.home
    · intro other path hmem
      rw [handlers_addHandler] at hmem
      split at hmem
      · rcases List.mem_append.mp hmem with hmem | hmem
        · exact hold channel path hmem
        · cases List.mem_singleton.mp hmem
          exact ⟨hplain, hthere⟩
      · exact hold other path hmem

theorem Sound.tell (hb : b.Sound) (channel time : String) (e : Event) : (b.tell channel time e).Sound := by
  constructor
  · rw [Book.tell, home_foldl_handle]
    exact hb.home
  · intro other path hmem
    rw [handlers_tell] at hmem
    obtain ⟨hpath, bytes, hbytes⟩ := hb.files other path hmem
    have htold := bytesAt?_tell channel time e b path.names
    rw [hbytes] at htold
    exact ⟨hpath, _, htold⟩

theorem Sound.enter (hb : b.Sound) (channel : String) (x : Note) : (b.enter channel x).Sound := by
  rw [Book.enter]
  split
  · exact hb.tell channel x.time x.event
  · exact hb

theorem mem_handlers_openFile (hb : b.Sound) (hfile : filePath setting = .ok file)
    (hopen : openFile channel setting b = .ok b') : .file (b.pathOf file) ∈ b'.handlers channel := by
  rcases openFile_eq_ok hfile hopen with ⟨hmem, rfl⟩ | ⟨_, disk, _, rfl⟩
  · have hplain := (hb.files channel _ hmem).1
    rwa [pathOf, hplain.plain_eq]
  · simp [handlers_addHandler]

end Opening

section Use

inductive Use where
  | openFile (channel : String) (setting : Path)
  | openSilent (channel : String)
  | enter (channel : String) (x : Note)

/-- The book after a use. An opening that fails leaves it as it was. -/
def use (b : Book) : Use → Book
  | .openFile channel setting =>
    match Book.openFile channel setting b with
    | .ok opened => opened
    | .error _ => b
  | .openSilent channel => b.openSilent channel
  | .enter channel x => b.enter channel x

theorem Sound.use (hb : b.Sound) (u : Use) : (b.use u).Sound := by
  cases u with
  | openFile channel setting =>
    rw [Book.use]
    split
    · exact hb.openFile ‹_›
    · exact hb
  | openSilent channel => exact hb.openSilent channel
  | enter channel x => exact hb.enter channel x

/-- Whatever a log is used for, its files are there. -/
theorem Sound.useAll (hb : b.Sound) (uses : List Use) : (uses.foldl Book.use b).Sound := by
  induction uses generalizing b with
  | nil => exact hb
  | cons u rest ih =>
    apply ih
    exact hb.use u

end Use

/-- A disk of which nothing is known but its working directory. -/
def bareDisk : Disk := { home := .ofChars ['/', 'w'] }

theorem sound_bareDisk : Sound { disk := bareDisk } := sound_new (by decide)

end Book
end AccessGate.Log
