import H9d.Core.Outcome
import H9d.Model.NodeDescLoader

/-! # What a file of descriptions says

The loader goes through the sections of a file and puts each of them into a table. The table has what the last
section of a number says, except that the names of bits pile up when sections of one number follow each other.
-/

namespace H9d

open Cxx

namespace NodeDescLoader

section Returns

variable (ε : Type)

theorem loadRegister_returns (registers : Byte → Option RegisterDesc) (s : RegisterSection) :
    (loadRegister registers s : Outcome ε _).Returns ↔
      (10 ≤ s.title → s.title ≤ 0xff → s.name.isSome ∧ s.type.isSome) := by
  rw [loadRegister]
  split_ifs with skipped
  · refine iff_of_true trivial fun low high => ?_
    omega
  · have low : 10 ≤ s.title := by omega
    have high : s.title ≤ 0xff := by omega
    cases s.name <;> cases s.type <;> simp [low, high]

theorem loadType_returns (types : Types) (s : NodeTypeSection) :
    (loadType types s : Outcome ε _).Returns ↔
      s.name.isSome ∧ ∀ r ∈ s.registers, 10 ≤ r.title → r.title ≤ 0xff → r.name.isSome ∧ r.type.isSome := by
  rw [loadType]
  cases s.name with
  | none => simp
  | some name =>
    rw [Outcome.Returns, Outcome.only_bind, ← Outcome.Returns,
      Outcome.returns_foldlM fun registers r => loadRegister_returns ε registers r]
    simp

theorem reload_returns (file : Option (List NodeTypeSection)) :
    (reload file : Outcome ε _).Returns ↔ Complete file := by
  cases file with
  | none => simp [reload, loadFile, Complete]
  | some sections => exact Outcome.returns_foldlM (fun types s => loadType_returns ε types s) sections _

end Returns

/-- The section is for the register. -/
def Denotes (reg : Byte) (s : RegisterSection) : Prop := s.title = reg.toNat ∧ 10 ≤ s.title

instance (reg : Byte) : DecidablePred (Denotes reg) := fun _ => inferInstanceAs (Decidable (_ ∧ _))

/-- A register that has some names of bits. -/
def RegisterSection.desc (s : RegisterSection) (reg : Byte) (bitsNames : List String) : RegisterDesc where
  number := reg
  name := s.name.getD ""
  type := s.type.getD ""
  size := s.size
  readable := s.readable
  writable := s.writable
  bitsNames := bitsNames
  description := s.description

/-- The sections of a type. -/
def typeSections (sections : List NodeTypeSection) (type : BitVec 16) : List NodeTypeSection :=
  sections.filter fun s => s.title = type

/-- The sections of a register in the sections of its type. -/
def registerSections (sections : List NodeTypeSection) (reg : Byte) : List RegisterSection :=
  (sections.flatMap (·.registers)).filter fun s => Denotes reg s

/-- What a file says: for each number the last section of it. -/
def told (sections : List NodeTypeSection) : Types := fun type =>
  (typeSections sections type).getLast?.map fun s =>
    { name := s.name.getD ""
      description := s.description
      registers := fun reg =>
        (registerSections (typeSections sections type) reg).getLast?.map fun r => r.desc reg r.bitsNames.reverse }

/-- Where a register has several sections, only the last of them has names of bits. -/
def OneListOfBits (sections : List NodeTypeSection) : Prop :=
  ∀ type reg, ∀ r ∈ (registerSections (typeSections sections type) reg).dropLast, r.bitsNames = []

section Loading

/-- A register after some sections of it. -/
def extend (reg : Byte) (old : Option RegisterDesc) (sections : List RegisterSection) : Option RegisterDesc :=
  (sections.getLast?.map fun s =>
    s.desc reg ((old.map (·.bitsNames)).getD [] ++ sections.flatMap fun s => s.bitsNames.reverse)).or old

/-- A type after some sections of it. -/
def extendType (old : Option NodeDesc) (sections : List NodeTypeSection) : Option NodeDesc :=
  (sections.getLast?.map fun s =>
    { name := s.name.getD ""
      description := s.description
      registers := fun reg =>
        extend reg ((old.getD NodeDesc.empty).registers reg) (registerSections sections reg) : NodeDesc }).or old

variable {reg : Byte} {old : Option RegisterDesc} {type : BitVec 16}

theorem extend_concat (sections : List RegisterSection) (s : RegisterSection) :
    extend reg old (sections ++ [s]) = some (s.desc reg
      ((old.map (·.bitsNames)).getD [] ++ (sections ++ [s]).flatMap fun s => s.bitsNames.reverse)) := by
  rw [extend, List.getLast?_concat]
  rfl

/-- The names of bits pile up. -/
theorem bitsNames_extend (sections : List RegisterSection) :
    ((extend reg old sections).map (·.bitsNames)).getD [] =
      (old.map (·.bitsNames)).getD [] ++ sections.flatMap fun s => s.bitsNames.reverse := by
  rcases List.eq_nil_or_concat sections with rfl | ⟨sections, s, rfl⟩
  · exact (List.append_nil _).symm
  · rw [List.concat_eq_append, extend_concat]
    rfl

theorem extend_append (first second : List RegisterSection) :
    extend reg (extend reg old first) second = extend reg old (first ++ second) := by
  rcases List.eq_nil_or_concat second with rfl | ⟨second, s, rfl⟩
  · rw [List.append_nil]
    rfl
  · rw [List.concat_eq_append, ← List.append_assoc, extend_concat, extend_concat, bitsNames_extend,
      List.append_assoc, ← List.flatMap_append, List.append_assoc]

theorem extendType_concat (old : Option NodeDesc) (sections : List NodeTypeSection) (s : NodeTypeSection) :
    extendType old (sections ++ [s]) = some
      { name := s.name.getD ""
        description := s.description
        registers := fun reg =>
          extend reg ((old.getD NodeDesc.empty).registers reg) (registerSections (sections ++ [s]) reg) } := by
  rw [extendType, List.getLast?_concat]
  rfl

theorem registers_extendType (old : Option NodeDesc) (sections : List NodeTypeSection) (reg : Byte) :
    ((extendType old sections).getD NodeDesc.empty).registers reg =
      extend reg ((old.getD NodeDesc.empty).registers reg) (registerSections sections reg) := by
  rcases List.eq_nil_or_concat sections with rfl | ⟨sections, s, rfl⟩
  · rfl
  · rw [List.concat_eq_append, extendType_concat]
    rfl

theorem registerSections_append (first second : List NodeTypeSection) (reg : Byte) :
    registerSections (first ++ second) reg = registerSections first reg ++ registerSections second reg := by
  rw [registerSections, List.flatMap_append, List.filter_append]
  rfl

theorem extendType_append (old : Option NodeDesc) (first second : List NodeTypeSection) :
    extendType (extendType old first) second = extendType old (first ++ second) := by
  rcases List.eq_nil_or_concat second with rfl | ⟨second, s, rfl⟩
  · rw [List.append_nil]
    rfl
  · rw [List.concat_eq_append, ← List.append_assoc, extendType_concat, extendType_concat]
    simp only [registers_extendType, extend_append, ← registerSections_append, List.append_assoc]

variable {ε : Type}

/-- One section of a register. -/
theorem loadRegister_eq {registers : Byte → Option RegisterDesc} {s : RegisterSection}
    (complete : 10 ≤ s.title → s.title ≤ 0xff → s.name.isSome ∧ s.type.isSome) :
    (loadRegister registers s : Outcome ε _) =
      .value fun reg => extend reg (registers reg) ([s].filter fun s => Denotes reg s) := by
  rw [loadRegister]
  split
  · next skipped =>
    congr 1
    funext reg
    have other : ¬Denotes reg s := by
      have bound := reg.isLt
      rintro ⟨same, low⟩
      omega
    rw [List.filter_singleton, decide_eq_false other]
    rfl
  · next taken =>
    obtain ⟨low, high⟩ := not_or.mp taken
    obtain ⟨name, type⟩ := complete (by omega) (by omega)
    obtain ⟨name, named⟩ := Option.isSome_iff_exists.mp name
    obtain ⟨type, typed⟩ := Option.isSome_iff_exists.mp type
    rw [named, typed]
    dsimp only
    congr 1
    funext reg
    have number : (BitVec.ofNat 8 s.title).toNat = s.title := by
      rw [BitVec.toNat_ofNat, Nat.mod_eq_of_lt (by omega)]
    rw [List.filter_singleton]
    by_cases here : reg = BitVec.ofNat 8 s.title
    · subst here
      have denotes : Denotes (BitVec.ofNat 8 s.title) s := ⟨number.symm, by omega⟩
      rw [Function.update_self, decide_eq_true denotes, cond_true, ← List.nil_append [s], extend_concat]
      simp only [RegisterSection.desc, named, typed, Option.getD_some, List.nil_append, List.flatMap_singleton]
    · have other : ¬Denotes reg s := fun denotes => here (BitVec.eq_of_toNat_eq (denotes.1.symm.trans number.symm))
      rw [Function.update_of_ne here, decide_eq_false other]
      rfl

theorem loadRegisters_eq {registers : Byte → Option RegisterDesc} {sections : List RegisterSection}
    (complete : ∀ s ∈ sections, 10 ≤ s.title → s.title ≤ 0xff → s.name.isSome ∧ s.type.isSome) :
    (sections.foldlM loadRegister registers : Outcome ε _) =
      .value fun reg => extend reg (registers reg) (sections.filter fun s => Denotes reg s) := by
  induction sections generalizing registers with
  | nil => rfl
  | cons s sections ih =>
    obtain ⟨here, later⟩ := List.forall_mem_cons.mp complete
    rw [List.foldlM_cons, loadRegister_eq here, Outcome.value_bind, ih later]
    simp only [extend_append, ← List.filter_append, List.singleton_append]

/-- One section of a type. -/
theorem loadType_eq {types : Types} {s : NodeTypeSection} (named : s.name.isSome)
    (complete : ∀ r ∈ s.registers, 10 ≤ r.title → r.title ≤ 0xff → r.name.isSome ∧ r.type.isSome) :
    (loadType types s : Outcome ε _) = .value fun type => extendType (types type) (typeSections [s] type) := by
  obtain ⟨name, named⟩ := Option.isSome_iff_exists.mp named
  rw [loadType, named]
  dsimp only
  rw [loadRegisters_eq complete, Outcome.value_bind, Outcome.pure_eq]
  congr 1
  funext type
  rw [typeSections, List.filter_singleton]
  by_cases here : s.title = type
  · subst here
    rw [Function.update_self, decide_eq_true rfl, cond_true, ← List.nil_append [s], extendType_concat]
    simp only [named, Option.getD_some, List.nil_append, registerSections, List.flatMap_singleton]
  · rw [Function.update_of_ne fun same => here same.symm, decide_eq_false here]
    rfl

theorem loadTypes_eq {types : Types} {sections : List NodeTypeSection} (complete : Complete (some sections)) :
    (sections.foldlM loadType types : Outcome ε _) =
      .value fun type => extendType (types type) (typeSections sections type) := by
  induction sections generalizing types with
  | nil => rfl
  | cons s sections ih =>
    obtain ⟨⟨named, registers⟩, later⟩ := List.forall_mem_cons.mp complete
    rw [List.foldlM_cons, loadType_eq named registers, Outcome.value_bind, ih later]
    simp only [extendType_append, typeSections, ← List.filter_append, List.singleton_append]

/-- What is loaded from a file that is complete. -/
theorem reload_eq {sections : List NodeTypeSection} (complete : Complete (some sections)) :
    (reload (some sections) : Outcome ε _) = .value fun type => extendType none (typeSections sections type) :=
  loadTypes_eq complete

end Loading

section Exact

variable {reg : Byte}

theorem extend_none_eq_iff (sections : List RegisterSection) :
    extend reg none sections = sections.getLast?.map (fun r => r.desc reg r.bitsNames.reverse) ↔
      ∀ r ∈ sections.dropLast, r.bitsNames = [] := by
  rcases List.eq_nil_or_concat sections with rfl | ⟨sections, s, rfl⟩
  · exact iff_of_true rfl fun r => nofun
  · have names (bits bits' : List String) : some (s.desc reg bits) = some (s.desc reg bits') ↔ bits = bits' := by
      rw [Option.some.injEq, RegisterSection.desc, RegisterSection.desc, RegisterDesc.mk.injEq]
      simp only [true_and, and_true]
    rw [List.concat_eq_append, extend_concat, List.getLast?_concat, List.dropLast_concat, Option.map_some, names,
      Option.map_none, Option.getD_none, List.nil_append, List.flatMap_append, List.flatMap_singleton,
      List.append_left_eq_self, List.flatMap_eq_nil_iff]
    exact forall₂_congr fun r _ => List.reverse_eq_nil_iff

/-- The table is what the file says unless names of bits pile up. -/
theorem loaded_eq_told_iff (sections : List NodeTypeSection) :
    (fun type => extendType none (typeSections sections type)) = told sections ↔ OneListOfBits sections := by
  rw [funext_iff]
  refine forall_congr' fun type => ?_
  rw [told]
  rcases List.eq_nil_or_concat (typeSections sections type) with none' | ⟨before, s, split⟩
  · rw [none']
    exact iff_of_true rfl fun reg r => nofun
  · rw [split, List.concat_eq_append, extendType_concat, List.getLast?_concat, Option.map_some, Option.some.injEq,
      NodeDesc.mk.injEq]
    simp only [true_and, funext_iff]
    exact forall_congr' fun reg => extend_none_eq_iff _

end Exact

end NodeDescLoader

end H9d
