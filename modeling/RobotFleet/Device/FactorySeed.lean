/-
# Device.FactorySeed -- the factory manifest that the service reads at its start

Phase 0 of `device-management-service/src/main.rs`: the loop over `FACTORY_MANIFEST`,
a text of `serial:token:model` entries with commas between them.  A statement that
fails is logged and skipped; here, as in `Device.Store`, none does.

What an entry says is stated a second time without a splitter: `Trims` takes the
blanks off a piece, and `Reads` cuts it at its first two colons.  The loop is then
`INSERT OR IGNORE` of the rows that the pieces offer (`seedFactoryManifest_eq`), so

* `factory_manifest_seeding`: every stored row stays, and each serial that is new is
  added once, with the token and model of the first piece that offers it;
* `reseed_after`: after a restart, whatever was done in between, the same text adds
  nothing.
-/
import RobotFleet.Device.Growth
import RobotFleet.Theory.Text

namespace RobotFleet.Device

open RobotFleet.Theory
open RobotFleet.Theory.Text

set_option autoImplicit false

/-! ## The loop -/

/-- The model of an entry that names none. -/
def defaultModel : String := "Alpha Wheeled"

/-- `entry.splitn(3, ':')` and the `match` on its parts: serial, token and model. -/
def parseEntry (entry : List Char) : Option (String × String × String) :=
  match splitn 3 ':' entry with
  | [s, t, m] => some (String.ofList s, String.ofList t, String.ofList m)
  | [s, t] => some (String.ofList s, String.ofList t, defaultModel)
  | _ => none

/-- `manifest.split(',').map(str::trim).filter(|s| !s.is_empty())`. -/
def entries (manifest : String) : List (List Char) :=
  ((manifest.toList.splitOn ',').map (trim isWhitespace)).filter (· ≠ [])

/-- The body of the loop; an entry that does not parse is skipped. -/
def seedEntry (db : Db) (entry : List Char) : Db :=
  match parseEntry entry with
  | none => db
  | some (serial, token, model) => (seedManifest serial model token db).2

/-- Phase 0, for the value of `FACTORY_MANIFEST` if it is set. -/
def seedFactoryManifest (manifest : Option String) (db : Db) : Db :=
  match manifest with
  | none => db
  | some text => (entries text).foldl seedEntry db

/-! ## What an entry says -/

/-- A trimmed entry, cut at its first two colons; the model may hold further ones. -/
inductive Reads : List Char → String → String → String → Prop
  | short (serial token : String) : ':' ∉ serial.toList → ':' ∉ token.toList →
      Reads (serial.toList ++ ':' :: token.toList) serial token defaultModel
  | full (serial token model : String) : ':' ∉ serial.toList → ':' ∉ token.toList →
      Reads (serial.toList ++ ':' :: (token.toList ++ ':' :: model.toList)) serial token model

/-- What a piece between two commas says. -/
def Offers (piece : List Char) (serial token model : String) : Prop :=
  ∃ entry, Trims isWhitespace piece entry ∧ Reads entry serial token model

/-- A piece without a colon, the empty one among them. -/
def Malformed (piece : List Char) : Prop :=
  ∀ entry, Trims isWhitespace piece entry → ':' ∉ entry

/-- The text is these pieces with commas between them. -/
def Pieces (manifest : String) (pieces : List (List Char)) : Prop :=
  manifest.toList = [','].intercalate pieces ∧ ∀ piece ∈ pieces, ',' ∉ piece

/-- Some piece of the text is for the serial. -/
def Occurs (manifest serial : String) : Prop :=
  ∃ pieces piece token model, Pieces manifest pieces ∧ piece ∈ pieces ∧ Offers piece serial token model

/-- The first piece of the text for the serial has this token and model. -/
def FirstOffer (manifest serial token model : String) : Prop :=
  ∃ before piece after, Pieces manifest (before ++ piece :: after) ∧ Offers piece serial token model ∧
    ∀ earlier ∈ before, ∀ token' model', ¬ Offers earlier serial token' model'

theorem Reads.parseEntry_eq {entry : List Char} {serial token model : String}
    (reads : Reads entry serial token model) : parseEntry entry = some (serial, token, model) := by
  cases reads with
  | short serial token clean clean' =>
      unfold parseEntry
      rw [splitn_append 1 clean, splitn_of_not_mem 1 clean']
      simp
  | full serial token model clean clean' =>
      unfold parseEntry
      rw [splitn_append 1 clean, splitn_append 0 clean']
      simp [splitn]

/-- An entry with a colon says something; its parts are before the first colon, between
the first two, and behind. -/
theorem reads_of_colon {entry : List Char} (colon : ':' ∈ entry) :
    ∃ serial token model, Reads entry serial token model := by
  obtain ⟨front, rest, rfl, clean⟩ := List.eq_append_cons_of_mem colon
  by_cases second : ':' ∈ rest
  · obtain ⟨middle, back, rfl, clean'⟩ := List.eq_append_cons_of_mem second
    have reads := Reads.full (String.ofList front) (String.ofList middle) (String.ofList back)
    simp only [String.toList_ofList] at reads
    exact ⟨_, _, _, reads clean clean'⟩
  · have reads := Reads.short (String.ofList front) (String.ofList rest)
    simp only [String.toList_ofList] at reads
    exact ⟨_, _, _, reads clean second⟩

theorem parseEntry_of_plain {entry : List Char} (plain : ':' ∉ entry) : parseEntry entry = none := by
  unfold parseEntry
  rw [splitn_of_not_mem 2 plain]

theorem parseEntry_eq_none_iff {entry : List Char} : parseEntry entry = none ↔ ':' ∉ entry := by
  refine ⟨fun refused colon => ?_, parseEntry_of_plain⟩
  obtain ⟨serial, token, model, reads⟩ := reads_of_colon colon
  rw [reads.parseEntry_eq] at refused
  cases refused

theorem reads_iff {entry : List Char} {serial token model : String} :
    Reads entry serial token model ↔ parseEntry entry = some (serial, token, model) := by
  refine ⟨Reads.parseEntry_eq, fun parsed => ?_⟩
  by_cases colon : ':' ∈ entry
  · obtain ⟨serial', token', model', reads⟩ := reads_of_colon colon
    rw [reads.parseEntry_eq] at parsed
    cases parsed
    exact reads
  · rw [parseEntry_of_plain colon] at parsed
    cases parsed

theorem offers_iff {piece : List Char} {serial token model : String} :
    Offers piece serial token model ↔
      parseEntry (trim isWhitespace piece) = some (serial, token, model) := by
  unfold Offers
  simp only [trims_iff, reads_iff, exists_eq_left]

theorem malformed_iff {piece : List Char} :
    Malformed piece ↔ parseEntry (trim isWhitespace piece) = none := by
  unfold Malformed
  simp only [trims_iff, parseEntry_eq_none_iff, forall_eq]

/-- One colon is enough: a piece is malformed exactly when it offers nothing. -/
theorem malformed_iff_offers_nothing (piece : List Char) :
    Malformed piece ↔ ¬ ∃ serial token model, Offers piece serial token model := by
  rw [malformed_iff, Option.eq_none_iff_forall_ne_some]
  constructor
  · rintro refused ⟨serial, token, model, offers⟩
    exact refused _ (offers_iff.1 offers)
  · rintro nothing ⟨serial, token, model⟩ parsed
    exact nothing ⟨serial, token, model, offers_iff.2 parsed⟩

/-! ## The rows of a text -/

/-- The row that a piece offers. -/
def rowOf (piece : List Char) : Option ManifestRow :=
  (parseEntry (trim isWhitespace piece)).map fun (serial, token, model) => ⟨serial, model, token, none⟩

/-- The rows of the text, in its order and with repeated serials. -/
def seeds (manifest : String) : List ManifestRow := (manifest.toList.splitOn ',').filterMap rowOf

theorem rowOf_eq_some_iff {piece : List Char} {row : ManifestRow} :
    rowOf piece = some row ↔
      row.provisionedAt = none ∧ Offers piece row.serial row.token row.model := by
  unfold rowOf
  rw [offers_iff, Option.map_eq_some_iff]
  constructor
  · rintro ⟨⟨serial, token, model⟩, parsed, rfl⟩
    exact ⟨rfl, parsed⟩
  · rintro ⟨unused, parsed⟩
    refine ⟨_, parsed, ?_⟩
    rw [← unused]

theorem rowOf_of_malformed {piece : List Char} (malformed : Malformed piece) : rowOf piece = none := by
  rw [rowOf, malformed_iff.1 malformed, Option.map_none]

/-- Dropping the empty entries first makes no difference: they do not parse. -/
theorem foldl_seedEntry (pieces : List (List Char)) (db : Db) :
    ((pieces.map (trim isWhitespace)).filter (· ≠ [])).foldl seedEntry db =
      { db with factoryManifest := db.factoryManifest.insertAll (pieces.filterMap rowOf) } := by
  induction pieces generalizing db with
  | nil => rfl
  | cons piece rest ih =>
      have none_ : parseEntry [] = none := parseEntry_eq_none_iff.2 (by simp)
      have step : ((((piece :: rest).map (trim isWhitespace)).filter (· ≠ [])).foldl seedEntry db) =
          ((rest.map (trim isWhitespace)).filter (· ≠ [])).foldl seedEntry
            (seedEntry db (trim isWhitespace piece)) := by
        by_cases empty : trim isWhitespace piece = []
        · simp [empty, seedEntry, none_]
        · simp [empty]
      rw [step, ih]
      cases parsed : parseEntry (trim isWhitespace piece) with
      | none => simp [seedEntry, rowOf, parsed]
      | some parts =>
          obtain ⟨serial, token, model⟩ := parts
          simp only [seedEntry, rowOf, parsed, List.filterMap_cons, Option.map_some]
          rfl

/-- **Phase 0 is one `INSERT OR IGNORE` after the other**, of the rows of the text. -/
theorem seedFactoryManifest_eq (manifest : String) (db : Db) :
    seedFactoryManifest (some manifest) db =
      { db with factoryManifest := db.factoryManifest.insertAll (seeds manifest) } :=
  foldl_seedEntry (manifest.toList.splitOn ',') db

/-- As a run of the store, the loop is a sequence of `seed_manifest` calls. -/
theorem seedFactoryManifest_eq_runStore (manifest : String) (db : Db) :
    seedFactoryManifest (some manifest) db =
      runStore db ((seeds manifest).map fun row => .seedManifest row.serial row.model row.token) := by
  rw [seedFactoryManifest_eq]
  have unused : ∀ row ∈ seeds manifest, row.provisionedAt = none := by
    intro row member
    obtain ⟨piece, -, offered⟩ := List.mem_filterMap.1 member
    exact (rowOf_eq_some_iff.1 offered).1
  generalize seeds manifest = rows at unused
  induction rows generalizing db with
  | nil => rfl
  | cons row rest ih =>
      have later := ih (seedManifest row.serial row.model row.token db).2
        fun other member => unused other (List.mem_cons_of_mem row member)
      have same : (⟨row.serial, row.model, row.token, none⟩ : ManifestRow) = row := by
        rw [← unused row (by simp)]
      rw [List.map_cons]
      refine Eq.trans ?_ later
      simp only [seedManifest, same]
      rfl

/-! ## Pieces and rows -/

theorem splitOn_of_pieces {manifest : String} {pieces : List (List Char)}
    (cut : Pieces manifest pieces) (some_ : pieces ≠ []) : manifest.toList.splitOn ',' = pieces :=
  splitOn_eq_iff.2 ⟨cut.1, cut.2, some_⟩

theorem pieces_splitOn (manifest : String) : Pieces manifest (manifest.toList.splitOn ',') := by
  obtain ⟨joined, clean, -⟩ := splitOn_eq_iff.1 (Eq.refl (manifest.toList.splitOn ','))
  exact ⟨joined, clean⟩

theorem rowOf_of_offers {piece : List Char} {serial token model : String}
    (offers : Offers piece serial token model) : rowOf piece = some ⟨serial, model, token, none⟩ :=
  rowOf_eq_some_iff.2 ⟨rfl, offers⟩

/-- The first row of a serial is that of the first piece for it. -/
theorem find?_seeds_iff {manifest : String} {row : ManifestRow} :
    (seeds manifest).find? (fun r => decide (r.serial = row.serial)) = some row ↔
      row.provisionedAt = none ∧ FirstOffer manifest row.serial row.token row.model := by
  rw [seeds, List.find?_filterMap, Option.bind_eq_some_iff]
  constructor
  · rintro ⟨piece, found, made⟩
    obtain ⟨-, before, after, whole, others⟩ := List.find?_eq_some_iff_append.1 found
    obtain ⟨unused, offers⟩ := rowOf_eq_some_iff.1 made
    have cut := pieces_splitOn manifest
    rw [whole] at cut
    refine ⟨unused, before, piece, after, cut, offers, ?_⟩
    intro earlier member token' model' offers'
    have other := others earlier member
    simp [rowOf_of_offers offers'] at other
  · rintro ⟨unused, before, piece, after, cut, offers, first⟩
    have made : rowOf piece = some row := rowOf_eq_some_iff.2 ⟨unused, offers⟩
    refine ⟨piece, List.find?_eq_some_iff_append.2 ⟨by simp [made], before, after, ?_, ?_⟩, made⟩
    · exact splitOn_of_pieces cut (by simp)
    · intro earlier member
      cases offered : rowOf earlier with
      | none => simp
      | some row' =>
          obtain ⟨-, offers'⟩ := rowOf_eq_some_iff.1 offered
          have apart : row'.serial ≠ row.serial := by
            intro same
            rw [same] at offers'
            exact first earlier member _ _ offers'
          simp [apart]

theorem occurs_iff {manifest serial : String} :
    Occurs manifest serial ↔ ∃ row ∈ seeds manifest, row.serial = serial := by
  constructor
  · rintro ⟨pieces, piece, token, model, cut, member, offers⟩
    have whole := splitOn_of_pieces cut (List.ne_nil_of_mem member)
    refine ⟨_, List.mem_filterMap.2 ⟨piece, ?_, rowOf_of_offers offers⟩, rfl⟩
    rw [whole]
    exact member
  · rintro ⟨row, member, rfl⟩
    obtain ⟨piece, inside, made⟩ := List.mem_filterMap.1 member
    exact ⟨_, piece, _, _, pieces_splitOn manifest, inside, (rowOf_eq_some_iff.1 made).2⟩

/-- A text without one of its malformed pieces has the same rows. -/
theorem seeds_without {manifest manifest' : String} {before after : List (List Char)} {piece : List Char}
    (cut : Pieces manifest (before ++ piece :: after)) (cut' : Pieces manifest' (before ++ after))
    (malformed : Malformed piece) : seeds manifest = seeds manifest' := by
  have whole := splitOn_of_pieces cut (by simp)
  have skipped := rowOf_of_malformed malformed
  have rows : seeds manifest = (before ++ after).filterMap rowOf := by
    rw [seeds, whole]
    simp [skipped]
  rw [rows]
  by_cases nothing : before ++ after = []
  · have blank : manifest'.toList = [] := by
      rw [cut'.1, nothing]
      rfl
    have empty : rowOf [] = none := rowOf_of_malformed fun entry trims => by
      rw [trims_iff.1 trims]
      simp [trim]
    rw [seeds, blank, nothing, List.splitOn_nil]
    simp [empty]
  · rw [seeds, splitOn_of_pieces cut' nothing]

/-! ## The manifest after Phase 0 -/

theorem seedFactoryManifest_of_present {manifest : String} {db : Db}
    (present : ∀ row ∈ seeds manifest, (db.manifest? row.serial).isSome = true) :
    seedFactoryManifest (some manifest) db = db := by
  rw [seedFactoryManifest_eq, Table.insertAll_of_present present]

/-- Every serial of the text is in the manifest afterwards. -/
theorem manifest?_seeded {manifest : String} (db : Db) {row : ManifestRow}
    (member : row ∈ seeds manifest) :
    ((seedFactoryManifest (some manifest) db).manifest? row.serial).isSome = true := by
  have read := db.factoryManifest.find?_insertAll (seeds manifest) row.serial
  have some_ : ((seeds manifest).find? fun r => decide (r.serial = row.serial)).isSome = true := by
    rw [List.find?_isSome]
    exact ⟨row, member, by simp⟩
  rw [seedFactoryManifest_eq]
  show ((db.factoryManifest.insertAll (seeds manifest)).find? () row.serial).isSome = true
  rw [read]
  show ((db.factoryManifest.find? () row.serial).or
    ((seeds manifest).find? fun r => decide (r.serial = row.serial))).isSome = true
  simp [some_]

/-- **After a restart the same text adds nothing**, whatever the service has done in
between. -/
theorem reseed_after (manifest : String) (db : Db) (ops : List StoreOp) :
    seedFactoryManifest (some manifest) (runStore (seedFactoryManifest (some manifest) db) ops) =
      runStore (seedFactoryManifest (some manifest) db) ops := by
  apply seedFactoryManifest_of_present
  intro row member
  obtain ⟨stored, found⟩ := Option.isSome_iff_exists.1 (manifest?_seeded db member)
  obtain ⟨later, found', -⟩ := (runStore_grows _ ops).manifest row.serial stored found
  rw [found', Option.isSome_some]

/-- **Factory manifest seeding.**  Phase 0 keeps every row of `factory_manifest` and adds
one for each serial that is new and occurs in the text, with the token and model of the
first piece for it, not provisioned.  It writes no other table; a malformed piece might
as well not be there; and running it again changes nothing. -/
theorem factory_manifest_seeding (manifest : String) (db : Db) :
    (∃ added,
      (seedFactoryManifest (some manifest) db).factoryManifest.rows =
        db.factoryManifest.rows ++ added ∧
      (added.map ManifestRow.serial).Nodup ∧
      (∀ serial, (∃ row ∈ added, row.serial = serial) ↔
        db.manifest? serial = none ∧ Occurs manifest serial) ∧
      ∀ row ∈ added, row.provisionedAt = none ∧
        FirstOffer manifest row.serial row.token row.model) ∧
    (seedFactoryManifest (some manifest) db).devices = db.devices ∧
    (seedFactoryManifest (some manifest) db).preEnrollment = db.preEnrollment ∧
    (∀ piece, Malformed piece ↔ ¬ ∃ serial token model, Offers piece serial token model) ∧
    (∀ before piece after manifest', Pieces manifest (before ++ piece :: after) →
      Pieces manifest' (before ++ after) → Malformed piece →
      seedFactoryManifest (some manifest) db = seedFactoryManifest (some manifest') db) ∧
    seedFactoryManifest (some manifest) (seedFactoryManifest (some manifest) db) =
      seedFactoryManifest (some manifest) db := by
  obtain ⟨added, rows, described⟩ := db.factoryManifest.insertAll_rows (seeds manifest)
  refine ⟨⟨added, ?_, ?_, ?_, ?_⟩, ?_, ?_, malformed_iff_offers_nothing, ?_,
    reseed_after manifest db []⟩
  · rw [seedFactoryManifest_eq]
    exact rows
  · have distinct := (db.factoryManifest.insertAll (seeds manifest)).unique ()
    rw [rows, List.map_append] at distinct
    exact (List.nodup_append.1 distinct).2.1
  · intro serial
    constructor
    · rintro ⟨row, member, rfl⟩
      obtain ⟨absent, first⟩ := (described row).1 member
      exact ⟨absent, occurs_iff.2 ⟨row, List.mem_of_find?_eq_some first, rfl⟩⟩
    · rintro ⟨absent, occurs⟩
      obtain ⟨some_, member, named⟩ := occurs_iff.1 occurs
      have found : ((seeds manifest).find? fun r => decide (r.serial = serial)).isSome = true := by
        rw [List.find?_isSome]
        exact ⟨some_, member, by simp [named]⟩
      obtain ⟨row, first⟩ := Option.isSome_iff_exists.1 found
      have named' : row.serial = serial := by simpa using List.find?_some first
      subst named'
      exact ⟨row, (described row).2 ⟨absent, first⟩, rfl⟩
  · intro row member
    exact find?_seeds_iff.1 ((described row).1 member).2
  · rw [seedFactoryManifest_eq]
  · rw [seedFactoryManifest_eq]
  · intro before piece after manifest' cut cut' malformed
    rw [seedFactoryManifest_eq, seedFactoryManifest_eq, seeds_without cut cut' malformed]

/-- A colon in the model, a piece without one, a serial given twice and one without a
model. -/
example : (seedFactoryManifest (some " r1:t1:A:2 ,bad, r1:t9,,r2:t2") .empty).factoryManifest.rows =
    [⟨"r1", "A:2", "t1", none⟩, ⟨"r2", "Alpha Wheeled", "t2", none⟩] := by
  decide

end RobotFleet.Device
