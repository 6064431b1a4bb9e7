import AccessGate.Proofs.Checks
import AccessGate.Proofs.Url.Location
import Mathlib.Data.List.TakeWhile

/-! # How URLs are written

A URL is taken apart at the first of its delimiters. What the parts are is said here of the text alone: the text is
the parts in a row with the delimiters between them, and none of the delimiters stands where it would part the
text earlier. -/
namespace AccessGate.Url

section Stretches
variable {p : Char → Bool} {mark : Char} {cs first rest : List Char}

theorem takeWhile_dropWhile_iff : cs.takeWhile p = first ∧ cs.dropWhile p = rest ↔
    cs = first ++ rest ∧ (∀ c ∈ first, p c = true) ∧ ∀ c ∈ rest.head?, p c = false := by
  constructor
  · rintro ⟨rfl, rfl⟩
    refine ⟨List.takeWhile_append_dropWhile.symm, fun c hc => List.mem_takeWhile_imp hc, fun c hc => ?_⟩
    have hhead := List.head?_dropWhile_not p cs
    rw [Option.mem_def.mp hc] at hhead
    exact hhead
  · rintro ⟨rfl, hfirst, hrest⟩
    rw [List.takeWhile_append_of_pos hfirst, List.dropWhile_append_of_pos hfirst]
    cases rest with
    | nil => simp
    | cons c rest => simp [hrest c rfl]

theorem forall_ne_iff : (∀ c ∈ cs, decide (c ≠ mark) = true) ↔ mark ∉ cs := by
  simp [List.forall_mem_ne']

/-- `Parted mark cs first rest`: the first `mark` parts `cs` into `first` and `rest`; without a `mark` there is
no `rest`. -/
def Parted (mark : Char) (cs first rest : List Char) : Prop :=
  mark ∉ first ∧ (cs = first ++ mark :: rest ∨ cs = first ∧ rest = [])

theorem parted_iff : Parted mark cs first rest ↔ before mark cs = first ∧ after mark cs = rest := by
  have hstretch := fun tail => @takeWhile_dropWhile_iff (fun c => c ≠ mark) cs first tail
  simp only [forall_ne_iff] at hstretch
  constructor
  · rintro ⟨hfirst, hcs | ⟨hcs, rfl⟩⟩
    · obtain ⟨htake, hdrop⟩ := (hstretch (mark :: rest)).mpr ⟨hcs, hfirst, by simp⟩
      exact ⟨htake, by rw [after, hdrop]; rfl⟩
    · obtain ⟨htake, hdrop⟩ := (hstretch []).mpr ⟨by simpa using hcs, hfirst, by simp⟩
      exact ⟨htake, by rw [after, hdrop]; rfl⟩
  · rintro ⟨htake, hrest⟩
    obtain ⟨hcs, hfirst, hhead⟩ := (hstretch _).mp ⟨htake, rfl⟩
    rw [after] at hrest
    refine ⟨hfirst, ?_⟩
    -- What was not taken is nothing, or starts with the mark, which `after` takes off.
    cases hdrop : cs.dropWhile (fun c => c ≠ mark) with
    | nil =>
      rw [hdrop] at hcs hrest
      exact .inr ⟨by simpa using hcs, hrest.symm⟩
    | cons c tail =>
      rw [hdrop] at hcs hrest hhead
      obtain rfl : c = mark := by simpa using hhead c rfl
      exact .inl (by rw [hcs, ← hrest]; rfl)

/-- `Trails mark cs rest`: what stands behind the last `mark` of `cs` is `rest`; without a `mark` it is all of `cs`. -/
def Trails (mark : Char) (cs rest : List Char) : Prop :=
  mark ∉ rest ∧ (cs = rest ∨ ∃ first, cs = first ++ mark :: rest)

theorem trails_iff : Trails mark cs rest ↔ afterLast mark cs = rest := by
  rw [afterLast, List.reverse_eq_iff]
  constructor
  · rintro ⟨hmark, rfl | ⟨first, rfl⟩⟩
    · exact (parted_iff.mp ⟨by simpa using hmark, .inr ⟨rfl, rfl⟩⟩).1
    · have hparted : Parted mark (first ++ mark :: rest).reverse rest.reverse first.reverse :=
        ⟨by simpa using hmark, .inl (by simp)⟩
      exact (parted_iff.mp hparted).1
  · intro h
    obtain ⟨hmark, hcs | ⟨hcs, _⟩⟩ := parted_iff.mpr ⟨h, rfl⟩
    · refine ⟨by simpa using hmark, .inr ⟨(after mark cs.reverse).reverse, ?_⟩⟩
      simpa using congrArg List.reverse hcs
    · exact ⟨by simpa using hmark, .inl (List.reverse_injective hcs)⟩

end Stretches

section Authority
variable {authority site host port : List Char}

/-- `Delimits site host port`: the host and the port that are written in a site. If there is an opening bracket the
host ends at the closing one, and the port stands behind the colon after it; else a colon stands between them. -/
inductive Delimits (site : List Char) : List Char → List Char → Prop
  | colon {host port : List Char} (hplain : '[' ∉ site) (hport : Parted ':' site host port) :
      Delimits site host port
  | brackets {front inner host behind skipped port : List Char} (hbracket : '[' ∈ site)
      (hopen : Parted '[' site front inner) (hclose : Parted ']' inner host behind)
      (hport : Parted ':' behind skipped port) : Delimits site host port

theorem ofAuthority_eq_iff : Location.ofAuthority authority = ⟨host, port⟩ ↔
    ∃ site, Trails '@' authority site ∧ Delimits site host port := by
  simp only [trails_iff, exists_eq_left', Location.ofAuthority, List.contains_eq_mem]
  constructor
  · split
    · rename_i hbracket
      rintro ⟨⟩
      exact .brackets (by simpa using hbracket) (parted_iff.mpr ⟨rfl, rfl⟩) (parted_iff.mpr ⟨rfl, rfl⟩)
        (parted_iff.mpr ⟨rfl, rfl⟩)
    · rename_i hplain
      rintro ⟨⟩
      exact .colon (by simpa using hplain) (parted_iff.mpr ⟨rfl, rfl⟩)
  · intro h
    cases h with
    | colon hplain hport =>
      obtain ⟨rfl, rfl⟩ := parted_iff.mp hport
      rw [if_neg (by simpa using hplain)]
    | brackets hbracket hopen hclose hport =>
      obtain ⟨_, rfl⟩ := parted_iff.mp hopen
      obtain ⟨rfl, rfl⟩ := parted_iff.mp hclose
      obtain ⟨_, rfl⟩ := parted_iff.mp hport
      rw [if_pos (by simpa using hbracket)]

/-- An authority that names a host, and a port or none. -/
structure NamesHost (authority : List Char) : Prop where
  brackets : checkBrackets authority = .ok ()
  delimiters : checkDelimiters authority = .ok ()
  location : ∃ site host port, Trails '@' authority site ∧ Delimits site host port ∧ host ≠ [] ∧
    Location.IsPortText port

theorem namesHost_iff : NamesHost authority ↔ checkBrackets authority = .ok () ∧
    checkDelimiters authority = .ok () ∧ (Location.ofAuthority authority).host ≠ [] ∧
      ∃ n, (Location.ofAuthority authority).portNumber? = .ok n := by
  rw [Location.exists_portNumber?_iff]
  constructor
  · rintro ⟨hbrackets, hdelimiters, site, host, port, hsite, hdelimits, hhost, hport⟩
    rw [ofAuthority_eq_iff.mpr ⟨site, hsite, hdelimits⟩]
    exact ⟨hbrackets, hdelimiters, hhost, hport⟩
  · rintro ⟨hbrackets, hdelimiters, hhost, hport⟩
    obtain ⟨site, hsite, hdelimits⟩ := ofAuthority_eq_iff.mp (rfl : Location.ofAuthority authority = ⟨_, _⟩)
    exact ⟨hbrackets, hdelimiters, site, _, _, hsite, hdelimits, hhost, hport⟩

end Authority

section Split
variable {cs : List Char} {parts : Parts}

theorem endsAuthority_iff {c : Char} : endsAuthority c = true ↔ c = '/' ∨ endsPath c = true := by
  simp [endsAuthority, endsPath, or_assoc]

theorem forall_not_endsAuthority_iff :
    (∀ c ∈ cs, endsAuthority c = false) ↔ '/' ∉ cs ∧ '?' ∉ cs ∧ '#' ∉ cs := by
  simp [endsAuthority, forall_and, List.forall_mem_ne', and_assoc]

theorem forall_head?_endsPath_iff :
    (∀ c ∈ cs.head?, endsPath c = true) ↔ cs = [] ∨ ∃ rest, cs = '?' :: rest ∨ cs = '#' :: rest := by
  cases cs <;> simp [endsPath, exists_or]

theorem split_eq_ok_iff (h : ∀ c ∈ cs, isLineBreak c = false) : split cs = .ok parts ↔
    ∃ authority tail, cs = authority ++ (parts.path ++ tail) ∧ (∀ c ∈ authority, endsAuthority c = false) ∧
      (∀ c ∈ parts.path.head?, c = '/') ∧ (∀ c ∈ parts.path, endsPath c = false) ∧
      (∀ c ∈ tail.head?, endsPath c = true) ∧ checkBrackets authority = .ok () ∧
      checkDelimiters authority = .ok () ∧ parts.location = .ofAuthority authority := by
  have hfilter : cs.filter (!isLineBreak ·) = cs := List.filter_eq_self.mpr (by simpa using h)
  have hstretch := fun ends : Char → Bool => @takeWhile_dropWhile_iff (!ends ·)
  simp only [Bool.not_eq_eq_eq_not, Bool.not_true, Bool.not_false] at hstretch
  simp only [split, hfilter, seq_eq_ok_iff, pure_eq_ok_iff]
  constructor
  · rintro ⟨hbrackets, hdelimiters, rfl⟩
    obtain ⟨hcs, hauthority, hrest⟩ := (hstretch endsAuthority).mp ⟨rfl, rfl⟩
    obtain ⟨hsplit, hpath, htail⟩ := (hstretch endsPath).mp ⟨rfl, rfl⟩
    refine ⟨_, _, hcs.trans (congrArg _ hsplit), hauthority, fun c hc => ?_, hpath, htail, hbrackets,
      hdelimiters, rfl⟩
    -- The first character of the path ended the authority, and does not end the path.
    have hends := hrest c (by rw [hsplit, List.head?_append, Option.mem_def.mp hc]; rfl)
    have hstays := hpath c (List.mem_of_head? hc)
    exact (endsAuthority_iff.mp hends).resolve_right (by simp [hstays])
  · rintro ⟨authority, tail, rfl, hauthority, hfirst, hpath, htail, hbrackets, hdelimiters, hlocation⟩
    have hrest : ∀ c ∈ (parts.path ++ tail).head?, endsAuthority c = true := by
      intro c hc
      rw [endsAuthority_iff]
      cases hparts : parts.path with
      | nil => exact .inr (htail c (by simpa [hparts] using hc))
      | cons d ds => exact .inl (hfirst c (by simpa [hparts] using hc))
    obtain ⟨htake, hdrop⟩ := (hstretch endsAuthority).mpr ⟨rfl, hauthority, hrest⟩
    rw [htake, hdrop, ((hstretch endsPath).mpr ⟨rfl, hpath, htail⟩).1, ← hlocation]
    exact ⟨hbrackets, hdelimiters, rfl⟩

end Split
end AccessGate.Url
