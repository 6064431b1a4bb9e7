import AccessGate.Proofs.Log.Reopening

/-! # What a log file gains

Whatever a log was used for before, what is entered on a channel reaches each file for which the channel was opened as
whole lines: the text that is added to the file, cut at its line ends, is a row of lines, and each of them is read as
the record of its event. There is one line for each entry unless the channel has come to hold the file twice. -/
namespace AccessGate.Log.Book

open Storage

/-- `Gains b b' place lines`: from one book to the other, the file at the place is continued by the text of the lines,
each with its end. -/
def Gains (b b' : Book) (place : Place) (lines : List String) : Prop :=
  ∃ before added text, b.disk.bytesAt? place = some before ∧ b'.disk.bytesAt? place = some (before ++ added) ∧
    Text.Utf8.decode added = .ok text ∧ text.splitOn '\n' = lines.map String.toList ++ [[]]

variable {b b' : Book} {channel : String} {place : Place} {lines lines' : List String} {notes : List Note}

theorem Gains.unique (h : Gains b b' place lines) (h' : Gains b b' place lines') : lines = lines' := by
  obtain ⟨before, added, text, hbefore, hadded, htext, hlines⟩ := h
  obtain ⟨before', added', text', hbefore', hadded', htext', hlines'⟩ := h'
  obtain rfl : before = before' := Option.some.inj (hbefore.symm.trans hbefore')
  obtain rfl : added = added' := List.append_cancel_left (Option.some.inj (hadded.symm.trans hadded'))
  obtain rfl : text = text' := Except.ok.inj (htext.symm.trans htext')
  have hrows := List.append_cancel_right (hlines.symm.trans hlines')
  exact List.map_injective_iff.mpr (fun _ _ => String.toList_injective) hrows

theorem gains_of_bytesAt? {before : List UInt8} (hbefore : b.disk.bytesAt? place = some before)
    (hafter : b'.disk.bytesAt? place = some (before ++ lines.flatMap lineBytes))
    (hplain : ∀ line ∈ lines, ∀ c ∈ line.toList, Text.IsPlain c) : Gains b b' place lines := by
  refine ⟨before, _, _, hbefore, hafter, decode_lineBytes lines, ?_⟩
  apply splitOn_lineChars
  rw [List.forall_mem_map]
  intro line hline hend
  exact absurd (hplain line hline _ hend) (by decide)

theorem gains_enterAll {before : List UInt8} (hbefore : b.disk.bytesAt? place = some before)
    (hreadable : ∀ x ∈ notes, x.event.Readable) : Gains b (b.enterAll channel notes) place
      ((notes.filter (·.level ≠ .debug)).flatMap fun x =>
        List.replicate (b.timesHeld channel place) (x.event.line x.time)) := by
  apply gains_of_bytesAt? hbefore
  · rw [enterAll_eq_tellAll, bytesAt?_tellAll, hbefore, List.flatMap_map, List.flatMap_assoc]
    simp only [List.flatMap_replicate, Option.map_some]
  · intro line hline
    obtain ⟨x, hx, hcopy⟩ := List.mem_flatMap.mp hline
    rw [List.eq_of_mem_replicate hcopy]
    exact ((hreadable x (List.mem_of_mem_filter hx)).line x.time).1

/-- Let a log be used in any way, and then a row of entries be made on a channel. Each file for which the channel was
opened gains whole lines: of each entry that is not for debugging, as many as there are paths to the file, among those
by which it was opened, that are not the plain path of an earlier one. So each such entry adds exactly one line to each
of these files exactly when the files that were opened before are opened by the paths under which they are known. A
line has printable characters only, and is read as the record of its event. -/
theorem adds_one_line_iff_spelledAsKnown {disk : Disk} (hhome : disk.home.root ≠ []) (uses : List Use)
    (channel : String) :
    let b := uses.foldl use { disk }
    let paths := pathsOpenedBy channel uses { disk } []
    (∀ p ∈ paths, ∀ notes : List Note, (∀ x ∈ notes, x.event.Readable) →
      Gains b (b.enterAll channel notes) p.plain.names ((notes.filter (·.level ≠ .debug)).flatMap fun x =>
        List.replicate (copies p.plain.names paths) (x.event.line x.time))) ∧
    ((∀ p ∈ paths, ∀ notes : List Note, (∀ x ∈ notes, x.event.Readable) →
      Gains b (b.enterAll channel notes) p.plain.names
        ((notes.filter (·.level ≠ .debug)).map fun x => x.event.line x.time)) ↔ SpelledAsKnown paths) ∧
    ∀ (e : Event) (time : String), e.Readable → (∀ c ∈ (e.line time).toList, 0x20 ≤ c.toNat ∧ c.toNat ≤ 0x7F) ∧
      ∃ j, Json.parse (e.line time) = .ok j ∧ e.Recorded time j := by
  intro b paths
  have hopened : OpenedFor channel paths b := (openedFor_new hhome channel).useAll uses
  have hgains : ∀ p ∈ paths, ∀ notes : List Note, (∀ x ∈ notes, x.event.Readable) →
      Gains b (b.enterAll channel notes) p.plain.names ((notes.filter (·.level ≠ .debug)).flatMap fun x =>
        List.replicate (copies p.plain.names paths) (x.event.line x.time)) := by
    intro p hp notes hreadable
    obtain ⟨before, hbefore⟩ := hopened.exists_bytesAt? hp
    rw [← hopened.timesHeld_eq]
    exact gains_enterAll hbefore hreadable
  refine ⟨hgains, ?_, fun e time hreadable => hreadable.line_recorded time⟩
  rw [← copies_eq_one_iff]
  constructor
  · intro honce p hp
    -- One message is enough to tell how many copies of a line the file gets.
    have hmessage : ∀ x ∈ [(⟨"", .info, .message ""⟩ : Note)], x.event.Readable := by
      simp [Event.Readable]
    have hcopies := congrArg List.length ((hgains p hp _ hmessage).unique (honce p hp _ hmessage))
    simpa using hcopies
  · intro hcopies p hp notes hreadable
    have hfile := hgains p hp notes hreadable
    rw [hcopies p hp] at hfile
    rwa [List.map_eq_flatMap]

section Sample

/-- A channel that is opened twice by a path with two dots: one message adds two lines. -/
theorem reopened_adds_two_lines :
    let b := [Use.openFile "gate" dottedSetting, .openFile "gate" dottedSetting].foldl use { disk := bareDisk }
    let line := "\x7b\"event\":\"message\",\"ts\":\"T\",\"msg\":\"ready\"\x7d"
    Gains b (b.enterAll "gate" [⟨"T", .info, .message "ready"⟩]) [['w'], "gate.jsonl".toList] [line, line] ∧
      ¬Gains b (b.enterAll "gate" [⟨"T", .info, .message "ready"⟩]) [['w'], "gate.jsonl".toList] [line] := by
  intro b line
  have htwo : Gains b (b.enterAll "gate" [⟨"T", .info, .message "ready"⟩]) [['w'], "gate.jsonl".toList]
      [line, line] := by
    have hbefore : b.disk.bytesAt? [['w'], "gate.jsonl".toList] = some [] := rfl
    exact gains_enterAll hbefore (by simp [Event.Readable])
  refine ⟨htwo, fun hone => ?_⟩
  cases htwo.unique hone

/-- The channel is opened, used, and opened again under another spelling; another channel is opened for the file. -/
def sampleUses : List Use :=
  [.openSilent "gate", .openFile "gate" (.ofChars "gate.txt".toList), .enter "gate" ⟨"S", .error, .message "a"⟩,
    .openFile "other" dottedSetting, .openFile "gate" (.ofChars "./gate".toList)]

theorem adds_one_line_iff_spelledAsKnown_sample : bareDisk.home.root ≠ [] ∧
    Gains (sampleUses.foldl use { disk := bareDisk })
      ((sampleUses.foldl use { disk := bareDisk }).enterAll "gate"
        [⟨"T", .debug, .message "b"⟩, ⟨"T", .warning, .message "c\n\""⟩, ⟨"T", .info, .rulesLoaded "b" 7⟩])
      [['w'], "gate.jsonl".toList]
      ["\x7b\"event\":\"message\",\"ts\":\"T\",\"msg\":\"c\\n\\\"\"\x7d",
        "\x7b\"event\":\"rules_loaded\",\"ts\":\"T\",\"source\":\"b\",\"count\":7\x7d"] := by
  have hhome : bareDisk.home.root ≠ [] := by decide
  have hknown : SpelledAsKnown (pathsOpenedBy "gate" sampleUses { disk := bareDisk } []) := by
    unfold SpelledAsKnown
    decide
  have hmem : Path.ofChars "/w/gate.jsonl".toList ∈ pathsOpenedBy "gate" sampleUses { disk := bareDisk } [] := by
    decide
  refine ⟨hhome, (adds_one_line_iff_spelledAsKnown hhome sampleUses "gate").2.1.mpr hknown _ hmem _ ?_⟩
  have hcount : Text.IsReadable 7 := by decide
  simp [Event.Readable, hcount]

end Sample
end AccessGate.Log.Book
