import WorldChain.Dispute.Types
import WorldChain.Lib.Delimited

/-! # The fork schedule behind a rollup config hash

A range proof commits to a hash of its rollup config, rendered as JSON with the two World forks of the host's schedule
appended where they are set. The other ten fields of the schedule are not hashed.
-/

namespace WorldChain.Measured

open Dispute (Bytes32)
open Machine Delimited

/-- World hardfork activation schedule carried by the inputs of a range proof. -/
structure WorldRangeHardforkConfig where
  bedrockBlock : Option (BitVec 64) := none
  regolithTime : Option (BitVec 64) := none
  canyonTime : Option (BitVec 64) := none
  ecotoneTime : Option (BitVec 64) := none
  fjordTime : Option (BitVec 64) := none
  graniteTime : Option (BitVec 64) := none
  holoceneTime : Option (BitVec 64) := none
  isthmusTime : Option (BitVec 64) := none
  jovianTime : Option (BitVec 64) := none
  karstTime : Option (BitVec 64) := none
  tropoTime : Option (BitVec 64) := none
  stratoTime : Option (BitVec 64) := none
deriving DecidableEq, Repr

inductive WorldRangeHardfork
  | bedrock
  | regolith
  | canyon
  | ecotone
  | fjord
  | granite
  | holocene
  | isthmus
  | jovian
  | karst
  | tropo
  | strato
deriving DecidableEq, Repr

def timestampActive (activation : Option (BitVec 64)) (timestamp : BitVec 64) : Bool :=
  activation.any fun activation => activation ≤ timestamp

/-- An unset activation block is block zero. -/
def blockActive (activation : Option (BitVec 64)) (block : BitVec 64) : Bool := activation.getD 0 ≤ block

namespace WorldRangeHardforkConfig

variable (schedule : WorldRangeHardforkConfig)

def isActive (fork : WorldRangeHardfork) (blockNumber timestamp : BitVec 64) : Bool :=
  match fork with
  | .bedrock => blockActive schedule.bedrockBlock blockNumber
  | .regolith => timestampActive schedule.regolithTime timestamp
  | .canyon => timestampActive schedule.canyonTime timestamp
  | .ecotone => timestampActive schedule.ecotoneTime timestamp
  | .fjord => timestampActive schedule.fjordTime timestamp
  | .granite => timestampActive schedule.graniteTime timestamp
  | .holocene => timestampActive schedule.holoceneTime timestamp
  | .isthmus => timestampActive schedule.isthmusTime timestamp
  | .jovian => timestampActive schedule.jovianTime timestamp
  | .karst => timestampActive schedule.karstTime timestamp
  | .tropo => timestampActive schedule.tropoTime timestamp
  | .strato => timestampActive schedule.stratoTime timestamp

/-- The latest active fork. -/
def activeForkAt (blockNumber timestamp : BitVec 64) : WorldRangeHardfork :=
  ([.strato, .tropo, .karst, .jovian, .isthmus, .holocene, .granite, .fjord, .ecotone, .canyon, .regolith].find?
    fun fork => schedule.isActive fork blockNumber timestamp).getD .bedrock

end WorldRangeHardforkConfig

/-! ## The EVM factory -/

section Factory

variable {OpSpecId : Type}

structure ZkvmOpEvmFactory where
  worldSchedule : Option WorldRangeHardforkConfig
deriving DecidableEq, Repr

def ZkvmOpEvmFactory.specForTimestamp (karst : OpSpecId) (factory : ZkvmOpEvmFactory) (timestamp : BitVec 64)
    (konaSpec : OpSpecId) : OpSpecId :=
  match factory.worldSchedule with
  | none => konaSpec
  | some schedule =>
    match schedule.activeForkAt 0 timestamp with
    | .tropo | .strato => karst
    | _ => konaSpec

theorem activeForkAt_eq (schedule : WorldRangeHardforkConfig) (blockNumber timestamp : BitVec 64) :
    schedule.activeForkAt blockNumber timestamp = .strato ∨ schedule.activeForkAt blockNumber timestamp = .tropo ↔
      timestampActive schedule.stratoTime timestamp = true ∨ timestampActive schedule.tropoTime timestamp = true := by
  unfold WorldRangeHardforkConfig.activeForkAt
  by_cases strato : timestampActive schedule.stratoTime timestamp = true
  · simp [WorldRangeHardforkConfig.isActive, strato]
  · by_cases tropo : timestampActive schedule.tropoTime timestamp = true
    · simp [WorldRangeHardforkConfig.isActive, strato, tropo]
    · have notStrato : ¬schedule.isActive .strato blockNumber timestamp = true := strato
      have notTropo : ¬schedule.isActive .tropo blockNumber timestamp = true := tropo
      rw [List.find?_cons_of_neg (p := fun fork => schedule.isActive fork blockNumber timestamp) notStrato,
        List.find?_cons_of_neg (p := fun fork => schedule.isActive fork blockNumber timestamp) notTropo]
      refine iff_of_false ?_ (by simp [strato, tropo])
      -- The search goes on among the other forks, and finds one of them or none.
      cases found : List.find? _ _ with
      | none => decide
      | some fork =>
        have member := List.mem_of_find?_eq_some found
        fin_cases member <;> decide

theorem specForTimestamp_eq (karst : OpSpecId) (schedule : WorldRangeHardforkConfig) (timestamp : BitVec 64)
    (konaSpec : OpSpecId) :
    ZkvmOpEvmFactory.specForTimestamp karst ⟨some schedule⟩ timestamp konaSpec =
      if timestampActive schedule.stratoTime timestamp = true ∨ timestampActive schedule.tropoTime timestamp = true then
        karst
      else konaSpec := by
  rw [← if_congr (activeForkAt_eq schedule 0 timestamp) rfl rfl]
  simp only [ZkvmOpEvmFactory.specForTimestamp]
  generalize schedule.activeForkAt 0 timestamp = fork
  cases fork <;> simp

end Factory

/-! ## The hash -/

def memberText (name : String) (time : BitVec 64) : String := ",\n  \"" ++ name ++ "\": " ++ toString time.toNat

def hashInput (members : String) (schedule : WorldRangeHardforkConfig) : String :=
  "\x7b\n  " ++ members ++ (schedule.tropoTime.map (memberText "tropo_time")).getD "" ++
    (schedule.stratoTime.map (memberText "strato_time")).getD "" ++ "\n\x7d"

/-- How a rollup config is rendered: it is told by its text, in which neither World field occurs. -/
structure Rendering (RollupConfig Error : Type) where
  members : RollupConfig → Except Error String
  injective : ∀ config other text, members config = .ok text → members other = .ok text → config = other
  free : ∀ config text, members config = .ok text →
    ¬"\"tropo_time\"".toList <:+: text.toList ∧ ¬"\"strato_time\"".toList <:+: text.toList

section Hash

variable {RollupConfig Error : Type} (rendering : Rendering RollupConfig Error) (sha256 : String → Bytes32)

def hashWorldRollupConfig (config : RollupConfig) (schedule : WorldRangeHardforkConfig) : Except Error Bytes32 := do
  let members ← rendering.members config
  return sha256 (hashInput members schedule)

end Hash

/-! ## Equal hashes -/

section Equal

variable {members otherMembers : String} {schedule other : WorldRangeHardforkConfig}

/-- The members that the schedule adds. -/
def added (schedule : WorldRangeHardforkConfig) : List (List Char) :=
  (schedule.tropoTime.map fun time => (memberText "tropo_time" time).toList).toList ++
    (schedule.stratoTime.map fun time => (memberText "strato_time" time).toList).toList

theorem toList_hashInput (members : String) (schedule : WorldRangeHardforkConfig) :
    (hashInput members schedule).toList =
      "\x7b\n  ".toList ++ (members.toList ++ (added schedule).flatten) ++ "\n\x7d".toList := by
  cases tropo : schedule.tropoTime <;> cases strato : schedule.stratoTime <;>
    simp [hashInput, added, tropo, strato, String.toList_append]

theorem isSegment_memberText {name : String} (plain : ',' ∉ name.toList) (time : BitVec 64) :
    IsSegment ',' (memberText name time).toList := by
  refine ⟨"\n  \"".toList ++ name.toList ++ "\": ".toList ++ Nat.toDigits 10 time.toNat, ?_, ?_⟩
  · simp [memberText, String.toList_append]
  · have digits : ',' ∉ Nat.toDigits 10 time.toNat := fun member =>
      absurd (Nat.isDigit_of_mem_toDigits (by decide) (by decide) member) (by decide)
    simp [plain, digits]

theorem infix_memberText (name : String) (time : BitVec 64) :
    ("\"" ++ name ++ "\"").toList <:+: (memberText name time).toList :=
  ⟨",\n  ".toList, (": " ++ toString time.toNat).toList, by simp [memberText, String.toList_append]⟩

theorem memberText_inj {name : String} {time later : BitVec 64} :
    memberText name time = memberText name later ↔ time = later := by
  refine ⟨fun same => ?_, congrArg _⟩
  have digits : toString time.toNat = toString later.toNat := by
    have texts := congrArg String.toList same
    simp only [memberText, String.toList_append] at texts
    exact String.toList_inj.mp (List.append_cancel_left texts)
  exact BitVec.eq_of_toNat_eq (Nat.repr_injective digits)

theorem memberText_ne (time later : BitVec 64) : memberText "tropo_time" time ≠ memberText "strato_time" later := by
  intro same
  have sixth := congrArg (fun text : String => text.toList[5]?) same
  simp [memberText, String.toList_append] at sixth

theorem added_inj (same : added schedule = added other) :
    schedule.tropoTime = other.tropoTime ∧ schedule.stratoTime = other.stratoTime := by
  have tropoNe (time later : BitVec 64) := memberText_ne time later
  have stratoNe (time later : BitVec 64) := (memberText_ne time later).symm
  simp only [added] at same
  cases tropo : schedule.tropoTime <;> cases strato : schedule.stratoTime <;> cases tropo' : other.tropoTime <;>
    cases strato' : other.stratoTime <;>
    simp_all [String.toList_inj, memberText_inj]

theorem added_isSegment : ∀ segment ∈ added schedule, IsSegment ',' segment := by
  intro segment member
  simp only [added, List.mem_append, Option.mem_toList, Option.map_eq_some_iff] at member
  rcases member with ⟨time, -, rfl⟩ | ⟨time, -, rfl⟩ <;> exact isSegment_memberText (by decide) time

theorem hashInput_inj {RollupConfig Error : Type} (rendering : Rendering RollupConfig Error)
    {config otherConfig : RollupConfig} (rendered : rendering.members config = .ok members)
    (otherRendered : rendering.members otherConfig = .ok otherMembers)
    (same : hashInput members schedule = hashInput otherMembers other) :
    config = otherConfig ∧ schedule.tropoTime = other.tropoTime ∧ schedule.stratoTime = other.stratoTime := by
  have named {schedule : WorldRangeHardforkConfig} {config : RollupConfig} {members : String}
      (rendered : rendering.members config = .ok members) :
      ∀ segment ∈ added schedule, ¬segment <:+: members.toList := by
    intro segment member inside
    obtain ⟨noTropo, noStrato⟩ := rendering.free config members rendered
    simp only [added, List.mem_append, Option.mem_toList, Option.map_eq_some_iff] at member
    rcases member with ⟨time, -, rfl⟩ | ⟨time, -, rfl⟩
    · exact noTropo ((infix_memberText _ time).trans inside)
    · exact noStrato ((infix_memberText _ time).trans inside)
  have texts := congrArg String.toList same
  rw [toList_hashInput, toList_hashInput] at texts
  have bodies := List.append_cancel_left (List.append_cancel_right texts)
  obtain ⟨equal, segments⟩ :=
    append_flatten_inj added_isSegment added_isSegment (named rendered) (named otherRendered) bodies
  obtain rfl := String.toList_inj.mp equal
  exact ⟨rendering.injective _ _ _ rendered otherRendered, added_inj segments⟩

end Equal

/-- Two ranges that commit to one rollup config hash run under the same spec at every timestamp, whatever Kona chose.
SHA-256 tells the two texts apart. -/
theorem rollup_config_hash_fixes_spec {RollupConfig Error OpSpecId : Type} (karst : OpSpecId)
    (rendering : Rendering RollupConfig Error) (sha256 : String → Bytes32) {config otherConfig : RollupConfig}
    {schedule other : WorldRangeHardforkConfig} {hash : Bytes32}
    (hashed : hashWorldRollupConfig rendering sha256 config schedule = .ok hash)
    (otherHashed : hashWorldRollupConfig rendering sha256 otherConfig other = .ok hash)
    (collisionFree : ∀ members otherMembers, rendering.members config = .ok members →
      rendering.members otherConfig = .ok otherMembers →
      sha256 (hashInput members schedule) = sha256 (hashInput otherMembers other) →
      hashInput members schedule = hashInput otherMembers other) :
    config = otherConfig ∧
      ∀ timestamp konaSpec,
        ZkvmOpEvmFactory.specForTimestamp karst ⟨some schedule⟩ timestamp konaSpec =
          ZkvmOpEvmFactory.specForTimestamp karst ⟨some other⟩ timestamp konaSpec := by
  simp only [hashWorldRollupConfig, bind_eq_ok, pure_eq_ok] at hashed otherHashed
  obtain ⟨members, rendered, rfl⟩ := hashed
  obtain ⟨otherMembers, otherRendered, equal⟩ := otherHashed
  have same := collisionFree members otherMembers rendered otherRendered equal.symm
  obtain ⟨configs, tropo, strato⟩ := hashInput_inj rendering rendered otherRendered same
  refine ⟨configs, fun timestamp konaSpec => ?_⟩
  rw [specForTimestamp_eq, specForTimestamp_eq, tropo, strato]

def sampleMembers (testnet : Bool) : Except Empty String :=
  .ok (if testnet then "\"l2_chain_id\": 4801" else "\"l2_chain_id\": 480")

theorem sampleMembers_injective (config other : Bool) (text : String) (rendered : sampleMembers config = .ok text)
    (otherRendered : sampleMembers other = .ok text) : config = other := by
  have same := Except.ok.inj (rendered.trans otherRendered.symm)
  clear rendered otherRendered
  revert config other
  decide

theorem sampleMembers_free (config : Bool) (text : String) (rendered : sampleMembers config = .ok text) :
    ¬"\"tropo_time\"".toList <:+: text.toList ∧ ¬"\"strato_time\"".toList <:+: text.toList := by
  obtain rfl := Except.ok.inj rendered
  clear rendered
  revert config
  decide

def sampleRendering : Rendering Bool Empty where
  members := sampleMembers
  injective := sampleMembers_injective
  free := sampleMembers_free

def sampleSha256 (input : String) : Bytes32 :=
  BitVec.ofNat 256 (input.toList.foldl (fun digest character => digest * 31 + character.toNat) 0)

theorem unhashed_fork_does_not_matter :
    (hashWorldRollupConfig sampleRendering sampleSha256 true { tropoTime := some 5 }).toOption ≠
        (hashWorldRollupConfig sampleRendering sampleSha256 true { tropoTime := some 6 }).toOption ∧
      ∀ timestamp konaSpec,
        ZkvmOpEvmFactory.specForTimestamp "karst" ⟨some { tropoTime := some 5 }⟩ timestamp konaSpec =
          ZkvmOpEvmFactory.specForTimestamp "karst" ⟨some { tropoTime := some 5, karstTime := some 3 }⟩ timestamp
            konaSpec := by
  have hashed : hashWorldRollupConfig sampleRendering sampleSha256 true { tropoTime := some 5 } =
      .ok (sampleSha256 (hashInput "\"l2_chain_id\": 4801" { tropoTime := some 5 })) := rfl
  have otherHashed : hashWorldRollupConfig sampleRendering sampleSha256 true
      { tropoTime := some 5, karstTime := some 3 } =
        .ok (sampleSha256 (hashInput "\"l2_chain_id\": 4801" { tropoTime := some 5 })) := rfl
  refine ⟨by decide +kernel, (rollup_config_hash_fixes_spec "karst" sampleRendering sampleSha256 hashed otherHashed ?_).2⟩
  intro members otherMembers rendered otherRendered _
  obtain rfl := Except.ok.inj (rendered.symm.trans otherRendered)
  rfl

end WorldChain.Measured
