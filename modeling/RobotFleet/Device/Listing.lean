/-
# Device.Listing -- `ListDevices` from the first page to the last

A client lists the devices by repeating `list_devices` with the cursor it got,
until the cursor is empty; between two pages anything may happen to the store
(`walkDevices`).  The pages are a `walk` of `Theory.Paging` over `id`, which is
unique in the table, so what is proved there holds: pages keep to the limit, ids
only go up, a device that stays there and keeps matching is listed once, and a
table that does not change takes as many pages as it needs (`listing_complete`).

An empty cursor means "from the start" to the handler and "the end" to the
client, so all of this rests on `Uuid::new_v4` never giving the empty text
(`GeneratedId`).
-/
import Mathlib.Data.String.Basic
import RobotFleet.Device.Server
import RobotFleet.Theory.Paging

namespace RobotFleet.Device

open RobotFleet.Theory
open RobotFleet.Theory.Run
open RobotFleet.Theory.Calls (Status)

set_option autoImplicit false

/-! ## The walk -/

/-- One page, and the tables it was read from. -/
structure PageRead where
  db : Db
  response : ListDevicesResponse

/-- The pages that a client reads from a cursor on, with the store calls before each
of them, and whether it got to the end. -/
def walkDevices (req : ListDevicesRequest) : Db → String → List (List StoreOp) → List PageRead × Bool
  | _, _, [] => ([], false)
  | db, cursor, ops :: rest =>
    match listDeviceInfos { req with cursor } (runStore db ops) with
    | .ok (.devices response) =>
      if response.nextCursor = "" then ([⟨runStore db ops, response⟩], true)
      else
        let later := walkDevices req (runStore db ops) response.nextCursor rest
        (⟨runStore db ops, response⟩ :: later.1, later.2)
    | _ => ([], false)

/-- The tables at each page. -/
def snapshots : Db → List (List StoreOp) → List Db
  | _, [] => []
  | db, ops :: rest => runStore db ops :: snapshots (runStore db ops) rest

/-- The page size a request asks for. -/
def ListDevicesRequest.pageSize (req : ListDevicesRequest) : Nat :=
  if req.limit > 0 then req.limit.toInt.toNat else 50

/-- The devices a request asks for. -/
def ListDevicesRequest.wants (req : ListDevicesRequest) (r : DeviceRecord) : Bool :=
  (req.model.isEmpty || r.model == req.model) && (req.status.isEmpty || r.status == req.status)

/-- The ids that were listed, in order. -/
def listedIds (reads : List PageRead) : List String :=
  reads.flatMap fun read => read.response.devices.map (·.deviceId)

/-- `Uuid::new_v4().to_string()` is not empty. -/
def GeneratedId : StoreOp → Prop
  | .createDevice _ id _ => id ≠ ""
  | _ => True

/-! ## One page -/

section OnePage

variable (req : ListDevicesRequest) (db : Db)

/-- An empty text is an absent one. -/
def given (text : String) : Option String := if text.isEmpty then none else some text

theorem matchesFilter_given (text value : String) :
    matchesFilter (given text) value = (text.isEmpty || value == text) := by
  unfold given
  cases empty : text.isEmpty with
  | true => rfl
  | false => rfl

/-- What one page selects from. -/
def deviceQuery : Paging.Query DeviceRecord.id where
  view := db.devices.rows.filter req.wants
  select cursor := (db.devices.rows.filter fun r => req.wants r && Paging.after cursor r.id).insertionSort
    fun r r' => r.id ≤ r'.id
  perm cursor := by
    refine (List.perm_insertionSort _ _).trans (List.Perm.of_eq ?_)
    rw [List.filter_filter]
    exact List.filter_congr fun r _ => Bool.and_comm _ _
  sorted cursor := by
    have total : Std.Total fun r r' : DeviceRecord => r.id ≤ r'.id := ⟨fun r r' => le_total r.id r'.id⟩
    have trans : IsTrans DeviceRecord fun r r' => r.id ≤ r'.id :=
      ⟨fun _ _ _ before before' => le_trans before before'⟩
    exact List.pairwise_insertionSort _ _

theorem unique_deviceQuery : ((deviceQuery req db).view.map DeviceRecord.id).Nodup :=
  (db.devices.unique .id).sublist (List.Sublist.map _ List.filter_sublist)

/-- The store's page is the first rows of its query, and the look-ahead row is
dropped. -/
theorem listDevices_eq_page (n : Nat) (model status cursor : Option String) :
    listDevices model status n cursor db =
      Paging.page DeviceRecord.id n ((db.devices.rows.filter fun r =>
        matchesFilter model r.model && matchesFilter status r.status &&
          Paging.after cursor r.id).insertionSort fun r r' => r.id ≤ r'.id) := by
  unfold listDevices
  dsimp only
  rw [← Paging.page_take]
  have selected : (db.devices.rows.filter fun r => matchesFilter model r.model &&
      matchesFilter status r.status && cursor.all fun c => decide (c < r.id)) =
      db.devices.rows.filter fun r => matchesFilter model r.model && matchesFilter status r.status &&
        Paging.after cursor r.id := rfl
  rw [selected]
  generalize (db.devices.rows.filter fun r => matchesFilter model r.model &&
    matchesFilter status r.status && Paging.after cursor r.id).insertionSort
      (fun r r' => r.id ≤ r'.id) = rows
  have fetched : sqlLimit ((n : Int) + 1) rows = rows.take (n + 1) := sqlLimit_natCast (n + 1) rows
  have bound : (rows.take (n + 1)).length ≤ n + 1 := List.length_take_le _ _
  rw [fetched]
  generalize rows.take (n + 1) = taken at bound ⊢
  unfold Paging.page
  by_cases more : n < taken.length
  · have popped : taken.dropLast = taken.take n := by
      rw [List.dropLast_eq_take, show taken.length - 1 = n by omega]
    rw [if_pos (by omega), if_pos more, popped]
  · rw [if_neg (by omega), if_neg more, List.take_of_length_le (by omega)]

theorem pageSize_pos : 0 < req.pageSize := by
  unfold ListDevicesRequest.pageSize
  split
  · rename_i positive
    have above : (0 : Int32).toInt < req.limit.toInt := Int32.lt_iff_toInt_lt.1 positive
    have zero : (0 : Int32).toInt = 0 := rfl
    omega
  · decide

theorem limit_eq_pageSize : (if req.limit > 0 then req.limit.toInt else 50) = (req.pageSize : Int) := by
  have positive := pageSize_pos req
  unfold ListDevicesRequest.pageSize at positive ⊢
  split
  · rename_i given
    rw [if_pos given] at positive
    omega
  · rfl

/-- `list_devices` answers with one page of the walk. -/
theorem listDeviceInfos_eq_page (cursor : String) :
    listDeviceInfos { req with cursor } db = .ok (.devices
      ⟨(Paging.page DeviceRecord.id req.pageSize ((deviceQuery req db).select (given cursor))).1.map
          recordToProto,
        (Paging.page DeviceRecord.id req.pageSize
          ((deviceQuery req db).select (given cursor))).2.getD ""⟩) := by
  have selected : (deviceQuery req db).select (given cursor) = (db.devices.rows.filter fun r =>
      matchesFilter (given req.model) r.model && matchesFilter (given req.status) r.status &&
        Paging.after (given cursor) r.id).insertionSort fun r r' => r.id ≤ r'.id := by
    simp only [matchesFilter_given]
    rfl
  have limit := limit_eq_pageSize req
  have ran := listDevices_eq_page db req.pageSize (given req.model) (given req.status) (given cursor)
  rw [← selected, ← limit] at ran
  unfold listDeviceInfos
  show Except.ok (Response.devices ⟨(listDevices (given req.model) (given req.status)
    (if req.limit > 0 then req.limit.toInt else 50) (given cursor) db).1.map recordToProto,
    (listDevices (given req.model) (given req.status)
      (if req.limit > 0 then req.limit.toInt else 50) (given cursor) db).2.getD ""⟩) = _
  rw [ran]

end OnePage

/-! ## No device without an id -/

/-- Every device has an id that can be a cursor. -/
def Named (db : Db) : Prop := ∀ r ∈ db.devices.rows, r.id ≠ ""

theorem named_exec {db : Db} {op : StoreOp} (named : Named db) (generated : GeneratedId op) :
    Named (exec db op).2 := by
  intro r stored
  have stepped := exec_devices db op
  generalize (exec db op).2 = db' at stored stepped
  cases stepped with
  | kept _ _ same =>
      rw [same] at stored
      exact named r stored
  | created d id now _ inserted =>
      rw [Table.insert_rows inserted] at stored
      rcases List.mem_append.1 stored with old | new
      · exact named r old
      · rw [List.mem_singleton.1 new]
        exact generated
  | statusSet id status reason _ rows | touched id now _ rows =>
      rw [rows] at stored
      obtain ⟨old, member, rfl⟩ := List.mem_map.1 stored
      have before := named old member
      split
      · exact before
      · exact before

theorem named_runStore {db : Db} {ops : List StoreOp} (named : Named db)
    (generated : ∀ op ∈ ops, GeneratedId op) : Named (runStore db ops) :=
  run_invariant_of_forall (stateStep exec) (fun _ _ named generated => named_exec named generated)
    named generated

theorem named_snapshots {db : Db} {changes : List (List StoreOp)} (named : Named db)
    (generated : ∀ op ∈ changes.flatten, GeneratedId op) : ∀ db' ∈ snapshots db changes, Named db' := by
  induction changes generalizing db with
  | nil => simp [snapshots]
  | cons ops rest ih =>
      have here : Named (runStore db ops) :=
        named_runStore named fun op member => generated op (by simp [member])
      intro db' member
      rcases List.mem_cons.1 member with rfl | later
      · exact here
      · exact ih here (fun op member => generated op (by
          rw [List.flatten_cons]
          exact List.mem_append_right _ member)) db' later

@[simp] theorem length_snapshots (db : Db) (changes : List (List StoreOp)) :
    (snapshots db changes).length = changes.length := by
  induction changes generalizing db with
  | nil => rfl
  | cons ops rest ih => simp [snapshots, ih]

/-! ## The client's walk is a walk over ids -/

section Walks

variable (req : ListDevicesRequest)

/-- The queries of the pages. -/
def deviceQueries (db : Db) (changes : List (List StoreOp)) : List (Paging.Query DeviceRecord.id) :=
  (snapshots db changes).map (deviceQuery req)

theorem given_of_ne {text : String} (nonempty : text ≠ "") : given text = some text := by
  unfold given
  rw [if_neg (by simpa using nonempty)]

/-- The pages, the tables they were read from, and the end. -/
theorem walkDevices_eq_walk (db : Db) (cursor : String) (changes : List (List StoreOp))
    (named : ∀ db' ∈ snapshots db changes, Named db') :
    (walkDevices req db cursor changes).1.map (fun read => read.response.devices) =
      (Paging.walk DeviceRecord.id req.pageSize (given cursor) (deviceQueries req db changes)).1.map
        (·.map recordToProto) ∧
    (walkDevices req db cursor changes).1.map (·.db) = (snapshots db changes).take
      (Paging.walk DeviceRecord.id req.pageSize (given cursor) (deviceQueries req db changes)).1.length ∧
    (walkDevices req db cursor changes).2 =
      (Paging.walk DeviceRecord.id req.pageSize (given cursor) (deviceQueries req db changes)).2 := by
  induction changes generalizing db cursor with
  | nil => exact ⟨rfl, rfl, rfl⟩
  | cons ops rest ih =>
      have queries : deviceQueries req db (ops :: rest) =
          deviceQuery req (runStore db ops) :: deviceQueries req (runStore db ops) rest := rfl
      have answered := listDeviceInfos_eq_page req (runStore db ops) cursor
      unfold walkDevices
      rw [answered, queries]
      rcases Paging.page_cases (pageSize_pos req)
          ((deviceQuery req (runStore db ops)).sorted (given cursor)) with
        ⟨-, ran⟩ | ⟨-, last, kept, -, ran, -, -⟩
      · rw [ran, Paging.walk_of_last ran]
        simp [snapshots]
      · -- the cursor is an id, so the client goes on
        have stored : last ∈ (runStore db ops).devices.rows :=
          List.mem_of_mem_filter (Paging.mem_select.1 (List.mem_of_mem_take kept)).1
        have nonempty : last.id ≠ "" := named _ (by simp [snapshots]) last stored
        obtain ⟨devices, dbs, done⟩ := ih (runStore db ops) last.id
          fun db' member => named db' (by simp [snapshots, member])
        rw [given_of_ne nonempty] at devices dbs done
        rw [ran, Paging.walk_of_more ran]
        simp only [Option.getD_some, nonempty, if_false, List.map_cons, List.length_cons, snapshots,
          List.take_succ_cons, devices, dbs, done, and_self]

variable {req} {db : Db} {cursor : String} {changes : List (List StoreOp)}

theorem listedIds_walkDevices (named : ∀ db' ∈ snapshots db changes, Named db') :
    listedIds (walkDevices req db cursor changes).1 =
      (Paging.walk DeviceRecord.id req.pageSize (given cursor)
        (deviceQueries req db changes)).1.flatten.map (·.id) := by
  obtain ⟨devices, -, -⟩ := walkDevices_eq_walk req db cursor changes named
  have ids : listedIds (walkDevices req db cursor changes).1 =
      (((walkDevices req db cursor changes).1.map fun read => read.response.devices).flatten.map
        (·.deviceId)) := by
    rw [listedIds, List.map_flatten, List.map_map, List.flatMap_def]
    rfl
  rw [ids, devices, List.map_flatten, List.map_flatten, List.map_map]
  refine congrArg List.flatten (List.map_congr_left fun rows _ => ?_)
  simp only [Function.comp_apply, List.map_map]
  rfl

/-- Every page that was read is a page of the query at its time. -/
theorem mem_walkDevices (named : ∀ db' ∈ snapshots db changes, Named db') {read : PageRead}
    (member : read ∈ (walkDevices req db cursor changes).1) :
    ∃ rows : List DeviceRecord, read.response.devices = rows.map recordToProto ∧
      rows.length ≤ req.pageSize ∧ ∀ r ∈ rows, r ∈ read.db.devices.rows ∧ req.wants r = true := by
  obtain ⟨devices, dbs, -⟩ := walkDevices_eq_walk req db cursor changes named
  obtain ⟨i, inside, rfl⟩ := List.getElem_of_mem member
  have pages := congrArg (fun list => list[i]?) devices
  have tables := congrArg (fun list => list[i]?) dbs
  simp only [List.getElem?_map, List.getElem?_eq_getElem inside, Option.map_some] at pages tables
  obtain ⟨rows, page, same⟩ := Option.map_eq_some_iff.1 pages.symm
  obtain ⟨q, query, short, viewed⟩ := Paging.getElem?_walk (pageSize_pos req) page
  -- the query at this page is the one of the tables at this page
  have table : (snapshots db changes)[i]? = some (walkDevices req db cursor changes).1[i].db := by
    rw [List.getElem?_take] at tables
    split at tables
    · exact tables.symm
    · cases tables
  rw [deviceQueries, List.getElem?_map, table, Option.map_some, Option.some.injEq] at query
  subst query
  exact ⟨rows, same.symm, short, fun r inside => List.mem_filter.1 (viewed r inside)⟩

theorem listedIds_strict (named : ∀ db' ∈ snapshots db changes, Named db') :
    (listedIds (walkDevices req db cursor changes).1).Pairwise (· < ·) := by
  rw [listedIds_walkDevices named, List.pairwise_map]
  refine Paging.walk_strict (pageSize_pos req) (given cursor) fun q member => ?_
  obtain ⟨db', -, rfl⟩ := List.mem_map.1 member
  exact unique_deviceQuery req db'

/-- A walk to the end lists every device that each of its pages could see. -/
theorem mem_listedIds (named : ∀ db' ∈ snapshots db changes, Named db')
    (done : (walkDevices req db "" changes).2 = true) {id : String}
    (present : ∀ read ∈ (walkDevices req db "" changes).1,
      ∃ r ∈ read.db.devices.rows, r.id = id ∧ req.wants r = true) :
    id ∈ listedIds (walkDevices req db "" changes).1 := by
  obtain ⟨-, dbs, ended⟩ := walkDevices_eq_walk req db "" changes named
  rw [listedIds_walkDevices named]
  have start : Paging.after (given "") id = true := rfl
  have unique : ∀ q ∈ deviceQueries req db changes, (q.view.map DeviceRecord.id).Nodup := by
    intro q member
    obtain ⟨db', -, rfl⟩ := List.mem_map.1 member
    exact unique_deviceQuery req db'
  have seen : (deviceQueries req db changes).take (Paging.walk DeviceRecord.id req.pageSize (given "")
      (deviceQueries req db changes)).1.length =
        ((walkDevices req db "" changes).1.map (·.db)).map (deviceQuery req) := by
    rw [dbs, List.map_take]
    rfl
  obtain ⟨r, listed, rfl⟩ := Paging.walk_complete (pageSize_pos req) unique (ended ▸ done) start (by
    intro q member
    rw [seen] at member
    obtain ⟨db', taken, rfl⟩ := List.mem_map.1 member
    obtain ⟨read, inside, rfl⟩ := List.mem_map.1 taken
    obtain ⟨r, stored, same, wanted⟩ := present read inside
    exact ⟨r, List.mem_filter.2 ⟨stored, wanted⟩, same⟩)
  exact List.mem_map_of_mem listed

/-- A table that does not change takes the pages it needs. -/
theorem length_walkDevices (named : ∀ db' ∈ snapshots db changes, Named db')
    (unchanged : ∀ db' ∈ snapshots db changes, db'.devices = db.devices)
    (enough : Paging.pageCount req.pageSize (db.devices.rows.countP req.wants) ≤ changes.length) :
    (walkDevices req db "" changes).2 = true ∧ (walkDevices req db "" changes).1.length =
      Paging.pageCount req.pageSize (db.devices.rows.countP req.wants) := by
  obtain ⟨devices, -, ended⟩ := walkDevices_eq_walk req db "" changes named
  have pages := congrArg List.length devices
  rw [List.length_map, List.length_map] at pages
  rw [ended, pages]
  have same : Paging.Unchanged (db.devices.rows.filter req.wants) (deviceQueries req db changes) := by
    intro q member
    obtain ⟨db', taken, rfl⟩ := List.mem_map.1 member
    refine List.Perm.of_eq ?_
    show db'.devices.rows.filter req.wants = _
    rw [unchanged db' taken]
  have all : (db.devices.rows.filter req.wants).filter (fun r => Paging.after (given "") r.id) =
      db.devices.rows.filter req.wants := List.filter_eq_self.2 fun r _ => rfl
  have ids := unique_deviceQuery req db
  -- the ids in order
  have sorted : (((db.devices.rows.filter req.wants).map DeviceRecord.id).insertionSort
      (· ≤ ·)).Pairwise (· ≤ ·) := List.pairwise_insertionSort _ _
  have perm := List.perm_insertionSort (· ≤ ·) ((db.devices.rows.filter req.wants).map DeviceRecord.id)
  generalize ((db.devices.rows.filter req.wants).map DeviceRecord.id).insertionSort (· ≤ ·) = keys
    at sorted perm
  have strict : keys.Pairwise (· < ·) := by
    have distinct : keys.Nodup := perm.nodup_iff.2 ids
    exact (sorted.and distinct).imp fun both => lt_of_le_of_ne both.1 both.2
  have count : keys.length = db.devices.rows.countP req.wants := by
    rw [perm.length_eq, List.length_map, List.countP_eq_length_filter]
  rw [← count] at enough ⊢
  exact Paging.walk_count (pageSize_pos req) (given "") same sorted (by rw [all]; exact perm)
    (Paging.unsplit_of_strict (pageSize_pos req) strict)
    (by rw [deviceQueries, List.length_map, length_snapshots]; exact enough)

end Walks

/-- **Listing devices is complete and without repetition**, whatever the store does
between the pages: each page keeps to the limit, ids strictly increase over the
whole walk, every listed device matched when its page was read, a device that was
there before and matches at every page is listed once, and a table that does not
change is listed in `max(1, ceil(k / limit))` pages. -/
theorem listing_complete (req : ListDevicesRequest) (before : List StoreOp)
    (changes : List (List StoreOp)) (generated : ∀ op ∈ before ++ changes.flatten, GeneratedId op) :
    (∀ read ∈ (walkDevices req (runStore .empty before) "" changes).1,
      read.response.devices.length ≤ req.pageSize ∧
      ∀ info ∈ read.response.devices, ∃ r ∈ read.db.devices.rows,
        info = recordToProto r ∧ req.wants r = true) ∧
    (listedIds (walkDevices req (runStore .empty before) "" changes).1).Pairwise (· < ·) ∧
    ((walkDevices req (runStore .empty before) "" changes).2 = true →
      ∀ r ∈ (runStore .empty before).devices.rows,
        (∀ read ∈ (walkDevices req (runStore .empty before) "" changes).1,
          ∃ r' ∈ read.db.devices.rows, r'.id = r.id ∧ req.wants r' = true) →
        (listedIds (walkDevices req (runStore .empty before) "" changes).1).count r.id = 1) ∧
    ((∀ db ∈ snapshots (runStore .empty before) changes,
        db.devices = (runStore .empty before).devices) →
      Paging.pageCount req.pageSize ((runStore .empty before).devices.rows.countP req.wants) ≤
        changes.length →
      (walkDevices req (runStore .empty before) "" changes).2 = true ∧
      (walkDevices req (runStore .empty before) "" changes).1.length =
        Paging.pageCount req.pageSize ((runStore .empty before).devices.rows.countP req.wants)) := by
  have empty : Named .empty := fun r stored => by cases stored
  have start : Named (runStore .empty before) :=
    named_runStore empty fun op member => generated op (List.mem_append_left _ member)
  have named := named_snapshots start fun op member => generated op (List.mem_append_right _ member)
  refine ⟨fun read member => ?_, listedIds_strict named, fun done r _ present => ?_,
    length_walkDevices named⟩
  · obtain ⟨rows, devices, short, found⟩ := mem_walkDevices named member
    rw [devices, List.length_map]
    refine ⟨short, fun info listed => ?_⟩
    obtain ⟨r, inside, rfl⟩ := List.mem_map.1 listed
    exact ⟨r, (found r inside).1, rfl, (found r inside).2⟩
  · have distinct : (listedIds (walkDevices req (runStore .empty before) "" changes).1).Nodup :=
      (listedIds_strict named).imp fun below => ne_of_lt below
    exact List.count_eq_one_of_mem distinct (mem_listedIds named done present)

/-- Two devices. -/
def Toy.twoDevices : List StoreOp :=
  [.createDevice ⟨"SN-2", "arm", "v1", "pem-2"⟩ "id-2" 100,
   .createDevice ⟨"SN-1", "arm", "v1", "pem-1"⟩ "id-1" 101]

/-- Before the second page, one is seen and a third is enrolled under a lower id. -/
def Toy.meanwhile : List (List StoreOp) :=
  [[], [.touchLastSeen "id-2" 200, .createDevice ⟨"SN-0", "arm", "v1", "pem-0"⟩ "id-0" 200]]

theorem listing_complete_twoPages :
    listedIds (walkDevices ⟨"arm", "", 1, ""⟩ (runStore .empty Toy.twoDevices) "" Toy.meanwhile).1 =
      ["id-1", "id-2"] ∧
    (listedIds (walkDevices ⟨"arm", "", 1, ""⟩ (runStore .empty Toy.twoDevices) ""
      Toy.meanwhile).1).count "id-2" = 1 :=
  ⟨by decide,
    (listing_complete ⟨"arm", "", 1, ""⟩ Toy.twoDevices Toy.meanwhile
      (by simp [Toy.twoDevices, Toy.meanwhile, GeneratedId])).2.2.1 (by decide)
      ((⟨"SN-2", "arm", "v1", "pem-2"⟩ : NewDevice).toRecord "id-2" 100) (by decide) (by decide)⟩

end RobotFleet.Device
