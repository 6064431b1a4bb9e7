import AccessGate.Proofs.Rule.Pattern
import AccessGate.Proofs.Url.Grammar

/-! # Patterns that stand for a host

A rule for a host and port opens all of the host. So its pattern must not name a place on the host: behind the
authority stands a slash at the most, before a query or a fragment. -/
namespace AccessGate.Rule

variable {scheme : Scheme} {pattern : String} {rest : List Char}

theorem not_isLineBreak {c : Char} (h : Text.isBlank c = false) : Url.isLineBreak c = false := by
  cases hbreak : Url.isLineBreak c with
  | false => rfl
  | true =>
    simp only [Url.isLineBreak, Bool.or_eq_true, decide_eq_true_eq] at hbreak
    obtain (rfl | rfl) | rfl := hbreak <;> exact absurd h (by decide)

theorem urlParts_eq (h : pattern.toList = scheme.text.toList ++ rest) : urlParts scheme pattern = Url.split rest := by
  rw [urlParts, h, ← String.length_toList, List.drop_left]

theorem path_length_le_one_iff {path : List Char} (h : ∀ c ∈ path.head?, c = '/') :
    path.length ≤ 1 ↔ path = [] ∨ path = ['/'] := by
  cases path with
  | nil => simp
  | cons c cs => simp [h c rfl]

/-- A pattern leads to a host and no further: the scheme, an authority that names a host, at most a slash, and then
nothing but a query or a fragment. -/
def LeadsToHost (scheme : Scheme) (pattern : String) : Prop :=
  ∃ authority slash tail, pattern.toList = scheme.text.toList ++ (authority ++ (slash ++ tail)) ∧
    ('/' ∉ authority ∧ '?' ∉ authority ∧ '#' ∉ authority) ∧ Url.NamesHost authority ∧
    (slash = [] ∨ slash = ['/']) ∧ (tail = [] ∨ ∃ text, tail = '?' :: text ∨ tail = '#' :: text)

/-- A pattern of the web without blanks is accepted for a host and port exactly when it leads to a host and no
further. So the path of its URL is empty or a slash. -/
theorem checkPatternType_hostPort_eq_ok_iff (hscheme : scheme = .http ∨ scheme = .https)
    (hopens : scheme.text.toList <+: pattern.toList) (hblank : ∀ c ∈ pattern.toList, Text.isBlank c = false) :
    (checkPatternType pattern .hostPort scheme = .ok () ↔ LeadsToHost scheme pattern) ∧
    (checkPatternType pattern .hostPort scheme = .ok () →
      ∃ parts, urlParts scheme pattern = .ok parts ∧ (parts.path = [] ∨ parts.path = ['/'])) := by
  have hweb : scheme ≠ .socket := by rcases hscheme with rfl | rfl <;> decide
  obtain ⟨rest, hrest⟩ := hopens
  have hbreaks : ∀ c ∈ rest, Url.isLineBreak c = false := fun c hc =>
    not_isLineBreak (hblank c (by rw [← hrest]; exact List.mem_append_right _ hc))
  rw [checkPatternType_hostPort hweb, checkHostPort_eq_ok_iff, urlParts_eq hrest.symm]
  constructor
  · constructor
    · rintro ⟨parts, hparts, hport, hhost, hpath⟩
      obtain ⟨authority, tail, hcs, hauthority, hslash, _, htail, hbrackets, hdelimiters, hlocation⟩ :=
        (Url.split_eq_ok_iff hbreaks).mp hparts
      rw [hlocation] at hport hhost
      exact ⟨authority, parts.path, tail, by rw [← hrest, hcs], Url.forall_not_endsAuthority_iff.mp hauthority,
        Url.namesHost_iff.mpr ⟨hbrackets, hdelimiters, hhost, hport⟩, (path_length_le_one_iff hslash).mp hpath,
        Url.forall_head?_endsPath_iff.mp htail⟩
    · rintro ⟨authority, slash, tail, hpattern, hauthority, hnames, hslash, htail⟩
      obtain rfl : rest = authority ++ (slash ++ tail) := List.append_cancel_left (hrest.trans hpattern)
      obtain ⟨hbrackets, hdelimiters, hhost, hport⟩ := Url.namesHost_iff.mp hnames
      have hfirst : ∀ c ∈ slash.head?, c = '/' := by rcases hslash with rfl | rfl <;> simp
      have hstays : ∀ c ∈ slash, Url.endsPath c = false := by
        rcases hslash with rfl | rfl <;> simp [Url.endsPath]
      refine ⟨⟨.ofAuthority authority, slash⟩, ?_, hport, hhost, (path_length_le_one_iff hfirst).mpr hslash⟩
      exact (Url.split_eq_ok_iff hbreaks).mpr ⟨authority, tail, rfl, Url.forall_not_endsAuthority_iff.mpr hauthority,
        hfirst, hstays, Url.forall_head?_endsPath_iff.mpr htail, hbrackets, hdelimiters, rfl⟩
  · rintro ⟨parts, hparts, _, _, hpath⟩
    obtain ⟨_, _, _, _, hslash, _⟩ := (Url.split_eq_ok_iff hbreaks).mp hparts
    exact ⟨parts, hparts, (path_length_le_one_iff hslash).mp hpath⟩

def hostSample : String := "https://ops@wiki.corp:8443/?q=a/b"

theorem checkPatternType_hostPort_sample :
    (Scheme.https = .http ∨ Scheme.https = .https) ∧ Scheme.https.text.toList <+: hostSample.toList ∧
    (∀ c ∈ hostSample.toList, Text.isBlank c = false) ∧ LeadsToHost .https hostSample ∧
    ∃ parts, urlParts .https hostSample = .ok parts ∧ (parts.path = [] ∨ parts.path = ['/']) := by
  have hopens : Scheme.https.text.toList <+: hostSample.toList := List.isPrefixOf_iff_prefix.mp rfl
  have hblank : ∀ c ∈ hostSample.toList, Text.isBlank c = false := by
    have hall : (hostSample.toList.all fun c => !Text.isBlank c) = true := rfl
    exact fun c hc => Bool.not_inj (List.all_eq_true.mp hall c hc)
  have haccepted : checkPatternType hostSample .hostPort .https = .ok () := rfl
  obtain ⟨hform, hpath⟩ := checkPatternType_hostPort_eq_ok_iff (.inr rfl) hopens hblank
  exact ⟨.inr rfl, hopens, hblank, hform.mp haccepted, hpath haccepted⟩

end AccessGate.Rule
