import H9d.Model.DevLoader
import H9d.Soundness.DevRegistry

/-! # Devices as the configuration says

After the file is read the manager has the devices of its sections, and as many places in the list of a node as
the sections name it. From then on each frame of a node makes the tasks that the file says.
-/

namespace H9d.DevLoader

open H9Frame Machine LabeledMachine Cxx NodeMgr DevRegistry

variable {Device : Type} [DecidableEq Device]

/-- The device of a section, if its type is known. -/
def device? (dev : DevSection) : Option Dev :=
  dev.type.bind fun type => createDev type dev.title (dev.nodeIds.map (BitVec.ofInt 16))

def made (address : Device) (dev : DevSection) : Option (Device × Dev) := (device? dev).map fun d => (address, d)

/-- The devices of the sections from a place on. -/
def madeFrom (addresses : ℕ → Device) : ℕ → List DevSection → List (Device × Dev)
  | _, [] => []
  | i, dev :: later => (made (addresses i) dev).toList ++ madeFrom addresses (i + 1) later

/-- The places of a node in the lists of ids. -/
def listed (devs : List (Device × Dev)) (node : NodeId) : List Device :=
  devs.flatMap fun (dev, d) => List.replicate ((d.dependentOnNodes.filterMap inArray).count node) dev

/-- The manager has these devices, and no others. -/
structure Loaded (s : DevRegistry Device) (devs : List (Device × Dev)) : Prop where
  heap : ∀ dev d, s.heap dev = some d ↔ (dev, d) ∈ devs
  lookup : ∀ name dev, s.devsMap.lookup name = some dev ↔ ∃ d, (dev, d) ∈ devs ∧ d.name = name
  sorted : (OrderedMap.keys s.devsMap).Pairwise fun a b => decide (a < b) = true
  lists : ∀ node, s.dependentDevices node = listed devs node

omit [DecidableEq Device] in
theorem loaded_start : Loaded (start : DevRegistry Device) [] where
  heap _ _ := iff_of_false (fun there => by cases there) List.not_mem_nil
  lookup _ _ := iff_of_false (fun found => by cases found) fun ⟨_, among, _⟩ => List.not_mem_nil among
  sorted := List.Pairwise.nil
  lists _ := rfl

section Step

variable {s t : DevRegistry Device} {done : List (Device × Dev)} {dev : Device} {d : Dev}

theorem strictWeakOn_name (names : List String) : StrictWeakOn (fun a b : String => decide (a < b)) names where
  irrefl a _ := decide_eq_false (lt_irrefl a)
  trans a _ b _ c _ first second := decide_eq_true ((of_decide_eq_true first).trans (of_decide_eq_true second))
  equivalentTrans a _ b _ c _ first second := by
    obtain rfl := (equivalent_name a b).mp first
    exact second

/-- A device of a new name at a new address. -/
theorem Loaded.accepted (loaded : Loaded s done) (fresh : s.heap dev = none)
    (absent : s.devsMap.lookup d.name = none) : Loaded (s.accepted dev d) (done ++ [(dev, d)]) where
  heap other e := by
    rw [heap_accepted, List.mem_append, List.mem_singleton, Prod.mk.injEq]
    rcases eq_or_ne other dev with rfl | apart
    · rw [Function.update_self]
      have unlisted : (other, e) ∉ done := by
        rw [← loaded.heap, fresh]
        exact fun there => by cases there
      simp only [Option.some.injEq, unlisted, true_and, false_or]
      exact eq_comm
    · rw [Function.update_of_ne apart, loaded.heap]
      simp [apart]
  lookup name other := by
    rw [lookup_accepted absent]
    constructor
    · intro found
      split at found
      · next same => exact ⟨d, List.mem_append_right _ (by rw [Option.some.inj found]; exact List.mem_singleton_self _), same.symm⟩
      · obtain ⟨e, among, named⟩ := (loaded.lookup name other).mp found
        exact ⟨e, List.mem_append_left _ among, named⟩
    · rintro ⟨e, among, rfl⟩
      rcases List.mem_append.mp among with before | new
      · have found := (loaded.lookup e.name other).mpr ⟨e, before, rfl⟩
        rw [if_neg, found]
        intro same
        rw [same, absent] at found
        cases found
      · obtain ⟨rfl, rfl⟩ := Prod.mk.inj (List.mem_singleton.mp new)
        exact if_pos rfl
  sorted := OrderedMap.sorted_access _ _ _ _ (strictWeakOn_name _) loaded.sorted
  lists node := by
    change (d.dependentOnNodes.foldl (addDependent dev) s.nodes node).getD [] = _
    rw [foldl_addDependent, listed, List.flatMap_append, List.flatMap_singleton]
    exact congrArg (· ++ _) (loaded.lists node)

/-- A section with a type, of a new title. -/
theorem Loaded.loadSection (loaded : Loaded s done) {address : Device} (fresh : ∀ d, (address, d) ∉ done)
    {dev : DevSection} (typed : dev.type.isSome) (titled : ∀ e ∈ done, e.2.name ≠ dev.title) :
    ∃ t, loadSection s address dev = some t ∧ Loaded t (done ++ (made address dev).toList) := by
  obtain ⟨type, given⟩ := Option.isSome_iff_exists.mp typed
  rw [DevLoader.loadSection, made, device?, given, Option.bind_some]
  dsimp only [Option.bind_eq_bind, Option.bind_some]
  cases created : createDev type dev.title (dev.nodeIds.map (BitVec.ofInt 16)) with
  | none =>
    refine ⟨s, rfl, ?_⟩
    rw [Option.map_none, Option.toList_none, List.append_nil]
    exact loaded
  | some d =>
    have named : d.name = dev.title := by
      obtain ⟨kind, -, rfl⟩ := Option.map_eq_some_iff.mp created
      rfl
    have free : s.heap address = none := by
      by_contra there
      obtain ⟨e, there⟩ := Option.ne_none_iff_exists'.mp there
      exact fresh e ((loaded.heap address e).mp there)
    have absent : s.devsMap.lookup d.name = none := by
      by_contra found
      obtain ⟨other, found⟩ := Option.ne_none_iff_exists'.mp found
      obtain ⟨e, among, same⟩ := (loaded.lookup d.name other).mp found
      exact titled _ among (same.trans named)
    have step : DevRegistry.step? s (.addDev address d) = some (s.accepted address d) := by
      rw [addDev_step free, if_pos absent]
    exact ⟨s.accepted address d, step, loaded.accepted free absent⟩

end Step

/-! ## A file -/

/-- The updates that the sections ask for when a frame is received: one for each time that a section names the
node of the frame. -/
def updates (addresses : ℕ → Device) (frame : H9Frame) : ℕ → List DevSection → List (DevWorkers.Task Device)
  | _, [] => []
  | i, dev :: later =>
      (if (device? dev).isSome then
        List.replicate (dev.nodeIds.count (frame.sourceId.toNat : ℤ))
          (.updateTask (addresses i) (frame.sourceId.setWidth 16) frame)
      else []) ++ updates addresses frame (i + 1) later

/-- What the library promises of a file that it reads: the function for the ids has accepted each section, and
no title is repeated. -/
structure Accepted (devs : List DevSection) : Prop where
  nodeIds : ∀ dev ∈ devs, ConfuseHelpers.validateNodeId dev.nodeIds = true
  titles : (devs.map DevSection.title).Nodup

section File

variable {addresses : ℕ → Device} {s t : DevRegistry Device} {done : List (Device × Dev)} {devs : List DevSection}

omit [DecidableEq Device] in
theorem made_address {address : Device} {dev : DevSection} {e : Device × Dev} (among : e ∈ (made address dev).toList) :
    e.1 = address ∧ e.2.name = dev.title := by
  obtain ⟨d, created, rfl⟩ := Option.map_eq_some_iff.mp (Option.mem_toList.mp among)
  obtain ⟨type, -, created⟩ := Option.bind_eq_some_iff.mp created
  obtain ⟨kind, -, rfl⟩ := Option.map_eq_some_iff.mp created
  exact ⟨rfl, rfl⟩

theorem Loaded.loadSections (loaded : Loaded s done) (separate : Function.Injective addresses) {i : ℕ}
    (fresh : ∀ e ∈ done, ∀ j, i ≤ j → e.1 ≠ addresses j) (typed : ∀ dev ∈ devs, dev.type.isSome)
    (titled : ∀ e ∈ done, ∀ dev ∈ devs, e.2.name ≠ dev.title) (titles : (devs.map DevSection.title).Nodup) :
    ∃ t, loadSections addresses i s devs = some t ∧ Loaded t (done ++ madeFrom addresses i devs) := by
  induction devs generalizing i s done with
  | nil => exact ⟨s, rfl, by rw [madeFrom, List.append_nil]; exact loaded⟩
  | cons dev later ih =>
    obtain ⟨absent, rest⟩ := List.nodup_cons.mp titles
    obtain ⟨middle, first, loaded⟩ := loaded.loadSection
      (fun d among => fresh _ among i le_rfl rfl) (typed dev List.mem_cons_self)
      (fun e among => titled e among dev List.mem_cons_self)
    have apart : ∀ e ∈ done ++ (made (addresses i) dev).toList, ∀ j, i + 1 ≤ j → e.1 ≠ addresses j := by
      intro e among j after
      rcases List.mem_append.mp among with before | new
      · exact fresh e before j (by omega)
      · rw [(made_address new).1]
        exact separate.ne (by omega)
    have others : ∀ e ∈ done ++ (made (addresses i) dev).toList, ∀ next ∈ later, e.2.name ≠ next.title := by
      intro e among next follows
      rcases List.mem_append.mp among with before | new
      · exact titled e before next (List.mem_cons_of_mem _ follows)
      · rw [(made_address new).2]
        exact fun same => absent (same ▸ List.mem_map_of_mem follows)
    obtain ⟨t, ended, loaded⟩ :=
      ih loaded apart (fun next follows => typed next (List.mem_cons_of_mem _ follows)) others rest
    refine ⟨t, ?_, ?_⟩
    · rw [DevLoader.loadSections, first]
      exact ended
    · rw [madeFrom, ← List.append_assoc]
      exact loaded

/-- A section without a type stops the daemon. -/
theorem loadSections_untyped {dev : DevSection} (among : dev ∈ devs) (untyped : dev.type = none)
    (s : DevRegistry Device) (i : ℕ) :
    loadSections addresses i s devs = none := by
  induction devs generalizing i s with
  | nil => cases among
  | cons first later ih =>
    rw [DevLoader.loadSections]
    rcases List.mem_cons.mp among with rfl | after
    · rw [loadSection, untyped]
      rfl
    · cases loadSection s (addresses i) first with
      | none => rfl
      | some middle => exact ih after middle (i + 1)

omit [DecidableEq Device] in
theorem mem_madeFrom {e : Device × Dev} (i : ℕ) : e ∈ madeFrom addresses i devs ↔
    ∃ k dev, devs[k]? = some dev ∧ made (addresses (i + k)) dev = some e := by
  induction devs generalizing i with
  | nil => simp [madeFrom]
  | cons first later ih =>
    rw [madeFrom, List.mem_append, Option.mem_toList, ih]
    constructor
    · rintro (here | ⟨k, dev, found, there⟩)
      · exact ⟨0, first, rfl, here⟩
      · exact ⟨k + 1, dev, found, by rwa [Nat.add_right_comm, Nat.add_assoc] at there⟩
    · rintro ⟨k, dev, found, there⟩
      cases k with
      | zero =>
        obtain rfl := Option.some.inj found
        exact .inl there
      | succ k => exact .inr ⟨k, dev, found, by rwa [Nat.add_right_comm, Nat.add_assoc]⟩

/-- An id that the function accepts is the node of its number. -/
theorem inArray_ofInt {id : ℤ} (lower : 0 ≤ id) (upper : id ≤ ID_MAX_VALUE) :
    ∃ node : NodeId, inArray (BitVec.ofInt 16 id) = some node ∧ (node.val : ℤ) = id := by
  have value : ((BitVec.ofInt 16 id).toNat : ℤ) = id := by
    rw [BitVec.toNat_ofInt]
    change id ≤ 255 at upper
    omega
  have inside : (BitVec.ofInt 16 id).toNat ≤ ID_MAX_VALUE := by
    rw [← value] at upper
    exact_mod_cast upper
  exact ⟨⟨_, Nat.lt_succ_of_le inside⟩, dif_pos inside, value⟩

theorem count_inArray {ids : List ℤ} (valid : ConfuseHelpers.validateNodeId ids = true) (node : NodeId) :
    ((ids.map (BitVec.ofInt 16)).filterMap inArray).count node = ids.count (node.val : ℤ) := by
  induction ids with
  | nil => rfl
  | cons id later ih =>
    rw [ConfuseHelpers.validateNodeId, List.all_cons, Bool.and_eq_true, decide_eq_true_eq] at valid
    obtain ⟨⟨lower, upper⟩, rest⟩ := valid
    obtain ⟨other, found, value⟩ := inArray_ofInt lower upper
    rw [List.map_cons, List.filterMap_cons, found]
    dsimp only
    rw [List.count_cons, List.count_cons, ih rest]
    congr 1
    rw [← value]
    simp [Fin.ext_iff]

omit [DecidableEq Device] in
theorem listed_madeFrom (valid : ∀ dev ∈ devs, ConfuseHelpers.validateNodeId dev.nodeIds = true) (frame : H9Frame)
    (i : ℕ) : (listed (madeFrom addresses i devs) (source frame)).map (fun dev => task dev frame) =
      updates addresses frame i devs := by
  induction devs generalizing i with
  | nil => rfl
  | cons dev later ih =>
    rw [madeFrom, listed, List.flatMap_append, List.map_append, updates,
      ← ih (fun next follows => valid next (List.mem_cons_of_mem _ follows)) (i + 1)]
    congr 1
    rw [made]
    cases described : device? dev with
    | none => rfl
    | some d =>
      obtain ⟨type, -, created⟩ := Option.bind_eq_some_iff.mp described
      obtain ⟨kind, -, rfl⟩ := Option.map_eq_some_iff.mp created
      rw [Option.map_some, Option.toList_some, List.flatMap_singleton, List.map_replicate, Option.isSome_some,
        if_pos rfl, count_inArray (valid dev List.mem_cons_self)]
      rfl

/-- Frames change nothing that the manager knows of the devices. -/
theorem Loaded.frames (loaded : Loaded s done) {es : List (DevRegistry.Event Device)}
    (frames : ∀ e ∈ es, ∃ frame, e = .frame frame) (run : (machine Device).run? s es = some t) : Loaded t done := by
  induction es generalizing s with
  | nil =>
    obtain rfl := Option.some.inj run
    exact loaded
  | cons e later ih =>
    obtain ⟨middle, step, rest⟩ := run?_cons_eq_some.mp run
    obtain ⟨frame, rfl⟩ := frames e List.mem_cons_self
    obtain rfl := Option.some.inj step
    have after : Loaded (s.handleFrame frame) done := by
      refine ⟨loaded.heap, loaded.lookup, loaded.sorted, fun node => ?_⟩
      rw [dependentDevices_handleFrame]
      exact loaded.lists node
    exact ih after (fun e follows => frames e (List.mem_cons_of_mem _ follows)) rest

omit [DecidableEq Device] in
/-- The map has each device once. -/
theorem Loaded.mem_devsMap (loaded : Loaded s done) (name : String) (dev : Device) :
    (name, dev) ∈ s.devsMap ↔ ∃ d, (dev, d) ∈ done ∧ d.name = name := by
  rw [← loaded.lookup, List.lookup_eq_some_iff]
  constructor
  · intro entry
    obtain ⟨before, after, split⟩ := List.append_of_mem entry
    refine ⟨before, after, split, fun other among => ?_⟩
    have sorted := loaded.sorted
    rw [split, OrderedMap.keys, List.map_append, List.map_cons, List.pairwise_append] at sorted
    have less := sorted.2.2 other.1 (List.mem_map_of_mem among) name List.mem_cons_self
    exact bne_iff_ne.mpr (of_decide_eq_true less).ne'
  · rintro ⟨before, after, split, -⟩
    rw [split]
    exact List.mem_append_right _ List.mem_cons_self

omit [DecidableEq Device] in
theorem Loaded.mem_devs (loaded : Loaded s done) (name : String) (d : Dev) :
    (name, d) ∈ s.devs ↔ ∃ dev, (dev, d) ∈ done ∧ d.name = name := by
  rw [DevRegistry.devs, List.mem_filterMap]
  constructor
  · rintro ⟨⟨other, dev⟩, entry, found⟩
    obtain ⟨e, there, same⟩ := Option.map_eq_some_iff.mp found
    obtain ⟨rfl, rfl⟩ := Prod.mk.inj same
    obtain ⟨e', among, named⟩ := (loaded.mem_devsMap other dev).mp entry
    obtain rfl := Option.some.inj (((loaded.heap dev e').mpr among).symm.trans there)
    exact ⟨dev, among, named⟩
  · rintro ⟨dev, among, named⟩
    refine ⟨(name, dev), (loaded.mem_devsMap name dev).mpr ⟨d, among, named⟩, ?_⟩
    exact congrArg (Option.map fun d => (name, d)) ((loaded.heap dev d).mpr among)

omit [DecidableEq Device] in
theorem Loaded.sorted_devs (loaded : Loaded s done) : (s.devs.map Prod.fst).Pairwise (· < ·) := by
  have sorted := loaded.sorted
  rw [OrderedMap.keys, List.pairwise_map] at sorted
  rw [DevRegistry.devs, List.pairwise_map, List.pairwise_filterMap]
  refine sorted.imp fun {one other} less e found e' found' => ?_
  obtain ⟨d, -, rfl⟩ := Option.map_eq_some_iff.mp found
  obtain ⟨d', -, rfl⟩ := Option.map_eq_some_iff.mp found'
  exact of_decide_eq_true less

end File

/-- A file that the library accepts is loaded exactly if every section has a type. The manager then has the
devices of the sections of the types that it knows, by ascending name, and after any frames each frame makes
the updates that the sections ask for, in the order of the file. -/
theorem devices_follow_file {addresses : ℕ → Device} {devs : List DevSection} (accepted : Accepted devs)
    (separate : Function.Injective addresses) :
    ((loadFile addresses start (.parsed devs)).isSome ↔ ∀ dev ∈ devs, dev.type.isSome) ∧
      ∀ s t es, loadFile addresses start (.parsed devs) = some s → (∀ e ∈ es, ∃ frame, e = .frame frame) →
        (machine Device).run? s es = some t →
        (t.devs.map Prod.fst).Pairwise (· < ·) ∧
          (∀ name d, (name, d) ∈ t.devs ↔ ∃ dev ∈ devs, dev.title = name ∧ device? dev = some d) ∧
          ∀ frame, t.updateTasks frame = updates addresses frame 0 devs := by
  have loads (typed : ∀ dev ∈ devs, dev.type.isSome) :
      ∃ s, loadFile addresses start (.parsed devs) = some s ∧ Loaded s (madeFrom addresses 0 devs) := by
    have nothing {P : Device × Dev → Prop} : ∀ e ∈ ([] : List (Device × Dev)), P e := fun e among => by cases among
    exact loaded_start.loadSections separate nothing typed nothing accepted.titles
  have typed_of_loaded (s : DevRegistry Device) (file : loadFile addresses start (.parsed devs) = some s) :
      ∀ dev ∈ devs, dev.type.isSome := by
    intro dev among
    by_contra untyped
    have stopped : loadFile addresses start (.parsed devs) = none :=
      loadSections_untyped among (by simpa using untyped) start 0
    cases stopped.symm.trans file
  refine ⟨⟨fun some => ?_, fun typed => ?_⟩, fun s t es file frames run => ?_⟩
  · obtain ⟨s, file⟩ := Option.isSome_iff_exists.mp some
    exact typed_of_loaded s file
  · obtain ⟨s, file, -⟩ := loads typed
    rw [file]
    rfl
  · obtain ⟨s', file', loaded⟩ := loads (typed_of_loaded s file)
    obtain rfl := Option.some.inj (file'.symm.trans file)
    have known := loaded.frames frames run
    refine ⟨?_, fun name d => ?_, fun frame => ?_⟩
    · exact known.sorted_devs
    · rw [known.mem_devs]
      constructor
      · rintro ⟨dev, among, rfl⟩
        obtain ⟨k, sec, found, there⟩ := (mem_madeFrom 0).mp among
        obtain ⟨e, described, same⟩ := Option.map_eq_some_iff.mp there
        obtain ⟨-, rfl⟩ := Prod.mk.inj same
        exact ⟨sec, List.mem_of_getElem? found, (made_address (Option.mem_toList.mpr there)).2.symm, described⟩
      · rintro ⟨sec, among, rfl, described⟩
        obtain ⟨k, found⟩ := List.mem_iff_getElem?.mp among
        have there : made (addresses (0 + k)) sec = some (addresses (0 + k), d) := by rw [made, described]; rfl
        exact ⟨_, (mem_madeFrom 0).mpr ⟨k, sec, found, there⟩, (made_address (Option.mem_toList.mpr there)).2⟩
    · rw [DevRegistry.updateTasks, known.lists]
      exact listed_madeFrom accepted.nodeIds frame 0

/-- A switch of two nodes, a device of a type that is not known, and another switch. -/
def twoSwitches : List DevSection :=
  [⟨"switch", some "PowerSwitch", [7, 9]⟩, ⟨"lamp", some "Lamp", [7]⟩, ⟨"antennas", some "AntennaSwitch", [7]⟩]

theorem accepted_twoSwitches : Accepted twoSwitches := ⟨by decide, by decide⟩

theorem devices_follow_file_twoSwitches : ∃ s, loadFile id start (.parsed twoSwitches) = some s ∧
    s.devs.map Prod.fst = ["antennas", "switch"] ∧
    s.updateTasks { (default : H9Frame) with sourceId := 7 } =
      [.updateTask 0 7 { (default : H9Frame) with sourceId := 7 },
        .updateTask 2 7 { (default : H9Frame) with sourceId := 7 }] := by
  obtain ⟨loaded, follows⟩ := devices_follow_file accepted_twoSwitches Function.injective_id
  obtain ⟨s, file⟩ := Option.isSome_iff_exists.mp (loaded.mpr (by decide))
  obtain ⟨-, -, tasks⟩ := follows s s [] file (fun e among => by cases among) rfl
  refine ⟨s, file, ?_, (tasks _).trans rfl⟩
  obtain rfl := Option.some.inj (file.symm.trans rfl)
  decide

end H9d.DevLoader
