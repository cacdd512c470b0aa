import Mathlib.Data.List.Find
import Mathlib.Data.List.Nodup
import Switchboard.Proofs.Tcp.LiteralHosts

set_option autoImplicit false

/-!
# What the section of the TCP transport settles

A section means something under two names only.  `Gives` says which settings a configuration
describes: without a section the usual ones, and otherwise what stands under the two names, where a
name that is missing leaves the usual.  Main statement: the settings that are read are those that
`Gives` allows, a section without any is at fault as a whole, and two configurations that agree
under the two names come to the same (`settings_go_by_two_names`).
-/

namespace Switchboard.Tcp.Settings

/-! ## The rules -/

/-- The names that mean something in a section. -/
inductive Meaningful : Text → Prop
  | noDelay : Meaningful "nodelay".toList
  | connectTimeout : Meaningful "connect_timeout_ms".toList

/-- What a value, or its absence, says of small writes. -/
inductive TellsDelay : Option Toml.Value → Bool → Prop
  | unsaid : TellsDelay none true
  | said (b : Bool) : TellsDelay (some (.boolean b)) b

/-- What a value, or its absence, says of the time for a connection attempt. -/
inductive TellsLimit : Option Toml.Value → Option Nat → Prop
  | unsaid : TellsLimit none none
  | said (n : Nat) : TellsLimit (some (.integer n)) (some n)

/-- The settings that a configuration describes. -/
inductive Gives (config : Config) : Settings → Prop
  | usual (absent : config.forTransport transportName = none) :
      Gives config { noDelay := true, connectTimeout := none }
  | section (table : Toml.Table) (settings : Settings)
      (present : config.forTransport transportName = some table)
      (delay : TellsDelay (table.find? "nodelay".toList) settings.noDelay)
      (limit : TellsLimit (table.find? "connect_timeout_ms".toList) settings.connectTimeout) :
      Gives config settings

/-- What a configuration has under a name in the section of the TCP transport. -/
def under? (config : Config) (name : Text) : Option Toml.Value :=
  (config.forTransport transportName).bind fun table => table.find? name

/-- Two configurations have the same under the names that mean something. -/
def Agree (config other : Config) : Prop :=
  ∀ name, Meaningful name → under? config name = under? other name

/-! ## One name -/

theorem readNoDelay_eq_ok_iff {table : Toml.Table} {b : Bool} :
    readNoDelay table = .ok b ↔ TellsDelay (table.find? "nodelay".toList) b := by
  unfold readNoDelay
  constructor
  · intro h
    split at h
    · next habsent =>
      obtain rfl := Except.ok.inj h
      rw [habsent]
      exact .unsaid
    · next own hsaid =>
      obtain rfl := Except.ok.inj h
      rw [hsaid]
      exact .said own
    · exact nomatch h
  · intro h
    generalize table.find? "nodelay".toList = value at h ⊢
    cases h <;> rfl

theorem readConnectTimeout_eq_ok_iff {table : Toml.Table} {limit : Option Nat} :
    readConnectTimeout table = .ok limit ↔
      TellsLimit (table.find? "connect_timeout_ms".toList) limit := by
  unfold readConnectTimeout
  constructor
  · intro h
    split at h
    · next habsent =>
      obtain rfl := Except.ok.inj h
      rw [habsent]
      exact .unsaid
    · next n hsaid =>
      split at h
      · next hsign =>
        obtain rfl := Except.ok.inj h
        rw [hsaid, ← Int.toNat_of_nonneg hsign]
        exact .said n.toNat
      · exact nomatch h
    · exact nomatch h
  · intro h
    generalize table.find? "connect_timeout_ms".toList = value at h ⊢
    cases h with
    | unsaid => rfl
    | said n => simp

/-! ## The section -/

theorem ofTable_eq_ok_iff {table : Toml.Table} {settings : Settings} :
    ofTable table = .ok settings ↔
      TellsDelay (table.find? "nodelay".toList) settings.noDelay ∧
        TellsLimit (table.find? "connect_timeout_ms".toList) settings.connectTimeout := by
  rw [← readNoDelay_eq_ok_iff, ← readConnectTimeout_eq_ok_iff, ofTable, bind_eq_ok_iff]
  constructor
  · rintro ⟨b, hdelay, hrest⟩
    obtain ⟨limit, hlimit, hlast⟩ := bind_eq_ok_iff.1 hrest
    obtain rfl := Except.ok.inj hlast
    exact ⟨hdelay, hlimit⟩
  · rintro ⟨hdelay, hlimit⟩
    exact ⟨settings.noDelay, hdelay, bind_eq_ok_iff.2 ⟨settings.connectTimeout, hlimit, rfl⟩⟩

theorem ofConfig_of_absent {config : Config} (absent : config.forTransport transportName = none) :
    ofConfig config = .ok { noDelay := true, connectTimeout := none } := by
  rw [ofConfig, absent]

theorem ofConfig_of_present {config : Config} {table : Toml.Table}
    (present : config.forTransport transportName = some table) :
    ofConfig config = ofTable table := by
  rw [ofConfig, present]

theorem ofConfig_eq_ok_iff {config : Config} {settings : Settings} :
    ofConfig config = .ok settings ↔ Gives config settings := by
  cases hsection : config.forTransport transportName with
  | none =>
    rw [ofConfig_of_absent hsection]
    constructor
    · intro h
      obtain rfl := Except.ok.inj h
      exact .usual hsection
    · rintro (_ | ⟨table, _, present, -, -⟩)
      · rfl
      · rw [hsection] at present
        exact nomatch present
  | some table =>
    rw [ofConfig_of_present hsection, ofTable_eq_ok_iff]
    constructor
    · rintro ⟨delay, limit⟩
      exact .section table settings hsection delay limit
    · rintro (absent | ⟨other, _, present, delay, limit⟩)
      · rw [hsection] at absent
        exact nomatch absent
      · obtain rfl := Option.some.inj (hsection.symm.trans present)
        exact ⟨delay, limit⟩

theorem Gives.unique {config : Config} {settings other : Settings} (h : Gives config settings)
    (h' : Gives config other) : other = settings :=
  Except.ok.inj ((ofConfig_eq_ok_iff.2 h').symm.trans (ofConfig_eq_ok_iff.2 h))

/-- What a configuration describes is read, and one that describes nothing is at fault as a
whole. -/
theorem ofConfig_eq_fault_iff {config : Config} :
    (∃ message, ofConfig config = .error (.config "transport.tcp".toList message)) ↔
      ∀ settings, ¬ Gives config settings := by
  simp only [← ofConfig_eq_ok_iff]
  cases hread : ofConfig config with
  | ok settings => simp
  | error fault =>
    obtain ⟨message, rfl⟩ := ofConfig_eq_error hread
    simp

/-! ## Two configurations -/

/-- A table is read by what is found in it under the two names. -/
theorem ofTable_congr {table other : Toml.Table}
    (h : ∀ name, Meaningful name → table.find? name = other.find? name) :
    ofTable table = ofTable other := by
  have hdelay : readNoDelay table = readNoDelay other := by
    rw [readNoDelay, readNoDelay, h _ .noDelay]
  have hlimit : readConnectTimeout table = readConnectTimeout other := by
    rw [readConnectTimeout, readConnectTimeout, h _ .connectTimeout]
  rw [ofTable, ofTable, hdelay, hlimit]

/-- What a name leaves unsaid in a section is what is usual without one. -/
theorem ofConfig_eq_ofTable (config : Config) :
    ofConfig config = ofTable ((config.forTransport transportName).getD []) := by
  cases hsection : config.forTransport transportName with
  | none => exact ofConfig_of_absent hsection
  | some table => exact ofConfig_of_present hsection

theorem under?_eq (config : Config) (name : Text) :
    under? config name = Toml.Table.find? ((config.forTransport transportName).getD []) name := by
  unfold under?
  cases config.forTransport transportName <;> rfl

theorem ofConfig_congr {config other : Config} (h : Agree config other) :
    ofConfig config = ofConfig other := by
  rw [ofConfig_eq_ofTable, ofConfig_eq_ofTable]
  refine ofTable_congr fun name meaningful => ?_
  rw [← under?_eq, ← under?_eq, h name meaningful]

/-- Where each name stands once, the order of a table does not matter. -/
theorem find?_perm {table other : Toml.Table} (order : table.Perm other)
    (once : (table.map Prod.fst).Nodup) (name : Text) : table.find? name = other.find? name := by
  have hone : {e ∈ table | (e.1 == name) = true}.Subsingleton := by
    rintro e ⟨he, hname⟩ f ⟨hf, hname'⟩
    refine List.inj_on_of_nodup_map once he hf ?_
    rw [eq_of_beq hname, eq_of_beq hname']
  rw [Toml.Table.find?, Toml.Table.find?, List.find?_eq_find?_of_perm order hone]

theorem agree_of_perm {config other : Config} {table permuted : Toml.Table}
    (present : config.forTransport transportName = some table)
    (present' : other.forTransport transportName = some permuted) (order : table.Perm permuted)
    (once : (table.map Prod.fst).Nodup) : Agree config other := by
  intro name _
  rw [under?, under?, present, present', Option.bind_some, Option.bind_some,
    find?_perm order once name]

theorem agree_of_nameless {config other : Config}
    (absent : config.forTransport transportName = none)
    (nameless : other.forTransport transportName = some []) : Agree config other := by
  intro name _
  rw [under?, under?, absent, nameless]
  rfl

/-! ## Main statement -/

/-- The settings that are read are those that a configuration describes, and one that describes none
is at fault as a whole section.  Whatever else two configurations hold, they come to the same if
they agree under the two names that mean something; so it is if their sections differ in order only,
or if the one has no section and the other a section without names. -/
theorem settings_go_by_two_names (config : Config) :
    (∀ settings, ofConfig config = .ok settings ↔ Gives config settings) ∧
    ((∃ message, ofConfig config = .error (.config "transport.tcp".toList message)) ↔
      ∀ settings, ¬ Gives config settings) ∧
    (∀ other, Agree config other → ofConfig other = ofConfig config) ∧
    (∀ other table permuted, config.forTransport transportName = some table →
      other.forTransport transportName = some permuted → table.Perm permuted →
      (table.map Prod.fst).Nodup → ofConfig other = ofConfig config) ∧
    ∀ other, config.forTransport transportName = none →
      other.forTransport transportName = some [] → ofConfig other = ofConfig config := by
  refine ⟨fun _ => ofConfig_eq_ok_iff, ofConfig_eq_fault_iff, ?_, ?_, ?_⟩
  · intro other agree
    exact (ofConfig_congr agree).symm
  · intro other table permuted present present' order once
    exact (ofConfig_congr (agree_of_perm present present' order once)).symm
  · intro other absent nameless
    exact (ofConfig_congr (agree_of_nameless absent nameless)).symm

/-- The two names between others, the same in another order beside other sections, the two names
alone, and no names at all. -/
theorem settings_go_by_two_names_of_sections :
    let table : Toml.Table := [("nodelay".toList, .boolean false), ("backlog".toList, .float 0),
      ("connect_timeout_ms".toList, .integer 250)]
    let alone : Toml.Table := [("connect_timeout_ms".toList, .integer 250),
      ("nodelay".toList, .boolean false)]
    let own : Config := { transports := .ofList [(transportName, table)] }
    let beside : Config :=
      { transports := .ofList [("udp".toList, alone), (transportName, table.reverse)]
        securities := .ofList [("tls".toList, table)] }
    let spare : Config := { transports := .ofList [(transportName, alone)] }
    let bare : Config := { transports := .ofList [(transportName, [])] }
    (own.forTransport transportName = some table ∧
      beside.forTransport transportName = some table.reverse ∧ table.Perm table.reverse ∧
      (table.map Prod.fst).Nodup ∧ ofConfig beside = ofConfig own) ∧
    (Agree own spare ∧ ofConfig spare = ofConfig own) ∧
    (Config.empty.forTransport transportName = none ∧
      bare.forTransport transportName = some [] ∧ ofConfig bare = ofConfig .empty) ∧
    ofConfig own = .ok { noDelay := false, connectTimeout := some 250 } := by
  intro table alone own beside spare bare
  obtain ⟨hgives, -, hagree, horder, -⟩ := settings_go_by_two_names own
  obtain ⟨-, -, -, -, hbare⟩ := settings_go_by_two_names .empty
  have hperm : table.Perm table.reverse := (List.reverse_perm table).symm
  have honce : (table.map Prod.fst).Nodup := by decide
  have hsame : Agree own spare := by
    rintro _ (_ | _) <;> rfl
  refine ⟨⟨rfl, rfl, hperm, honce, horder beside table _ rfl rfl hperm honce⟩,
    ⟨hsame, hagree spare hsame⟩, ⟨rfl, rfl, hbare bare rfl rfl⟩, ?_⟩
  exact (hgives _).2 (.section table _ rfl (.said false) (.said 250))

end Switchboard.Tcp.Settings
