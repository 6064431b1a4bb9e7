import AccessGate.Provision.Ledger

/-! # Secret keys

Every rule gets a key that was never handed out before. The secrets of the machine may repeat, so a
few draws are made for a key before its supply counts as exhausted. -/
namespace AccessGate.Provision

/-- How often a secret is drawn for one key. -/
def keyAttempts : Nat := 16

/-- Draws until a secret comes that is no key yet, at most `attempts` times, and hands it out. -/
def drawKey (secret : Nat → String) : Nat → Ledger → Option String × Ledger
  | 0, l => (none, l)
  | attempts + 1, l =>
    let key := secret l.draws
    let l := { l with draws := l.draws + 1 }
    if key ∈ l.issued then drawKey secret attempts l
    else (some key, { l with issued := key :: l.issued })

def assignKeys (secret : Nat → String) : List Rule → Ledger → Except RuleError (List Rule) × Ledger
  | [], l => (.ok [], l)
  | r :: rest, l =>
    match drawKey secret keyAttempts l with
    | (none, l) => (.error ⟨.supply .secretsExhausted, none⟩, l)
    | (some key, l) =>
      let (others, l) := assignKeys secret rest l
      (others.map fun others => { r with secretKey := some key } :: others, l)

end AccessGate.Provision
