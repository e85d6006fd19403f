/-
**The node of layers, and the order of its children.**

The children of `qualityLayers` are layers, whose names are numbers, and statistics of the manager, whose names come
after all numbers and which have no children (`Tidy`). That holds along every run (`tidy_run`).

* `inOrder_iff_contiguous`: counting the children gives every layer its own number exactly when the layers are
  contiguous: spatial layers and their temporal layers begin with zero, leave nothing out, and are ten at most, since
  the text `10` comes before the text `2`.
-/

import Erizo.Library.Sweep
import Erizo.Model.QualityManager

namespace Erizo

open Library

/-! ### Names -/

theorem toText_injective : Function.Injective toText := by
  have digits : ∀ first second : ℕ, Nat.toDigits 10 first = Nat.toDigits 10 second → first = second := by
    intro first second same
    rw [← @Nat.ofDigitChars_ten_toDigits first, same, Nat.ofDigitChars_ten_toDigits]
  have sign : ∀ first second : ℕ, Nat.toDigits 10 first ≠ '-' :: Nat.toDigits 10 second := by
    intro first second same
    have digit := @Nat.isDigit_of_mem_toDigits 10 first '-' (by decide) (by decide) (same ▸ List.mem_cons_self)
    exact absurd digit (by decide)
  intro first second same
  cases first with
  | ofNat first =>
      cases second with
      | ofNat second => exact congrArg Int.ofNat (digits _ _ same)
      | negSucc second => exact absurd same (sign _ _)
  | negSucc first =>
      cases second with
      | ofNat second => exact absurd same.symm (sign _ _)
      | negSucc second =>
          have numbers := digits _ _ (List.tail_eq_of_cons_eq same)
          rw [Nat.add_right_cancel numbers]

/-- The texts of numbers with one digit are in the order of the numbers. -/
theorem compare_toText {first second : ℕ} (small : first < 10) (below : second < 10) :
    compare (toText first) (toText second) = compare first second := by
  have all : ∀ first second : Fin 10, compare (toText (first : ℕ)) (toText (second : ℕ)) = compare (first : ℕ) second := by
    decide
  exact all ⟨first, small⟩ ⟨second, below⟩

theorem compare_toText_eq (first second : ℤ) : compare (toText first) (toText second) = .eq ↔ first = second :=
  Std.LawfulEqCmp.compare_eq_iff_eq.trans toText_injective.eq_iff

theorem head_toText (layer : ℤ) : ∃ first rest, toText layer = first :: rest ∧ first ≤ '9' := by
  cases layer with
  | negSucc number => exact ⟨'-', _, rfl, by decide⟩
  | ofNat number =>
      obtain ⟨first, rest, digits⟩ := List.exists_cons_of_ne_nil (@Nat.toDigits_ne_nil number 10)
      have digit := @Nat.isDigit_of_mem_toDigits 10 number first (by decide) (by decide) (digits ▸ List.mem_cons_self)
      refine ⟨first, rest, digits, ?_⟩
      simp only [Char.isDigit, Bool.and_eq_true, decide_eq_true_eq] at digit
      exact digit.2

/-- The names of the manager's own statistics. -/
def ownNames : List String :=
  ["maxActiveSpatialLayer", "maxActiveTemporalLayer", "selectedSpatialLayer", "selectedTemporalLayer",
    "qualityCappedByConstraints"]

/-- The manager's own names come after the layers. -/
theorem compare_ownName (layer : ℤ) {name : String} (own : name ∈ ownNames) :
    compare (toText layer) name.toList = .lt := by
  obtain ⟨first, rest, text, digit⟩ := head_toText layer
  have letters : ∀ name ∈ ownNames, '9' < name.toList.headD '0' ∧ name.toList ≠ [] := by decide
  obtain ⟨letter, some⟩ := letters name own
  obtain ⟨head, tail, spelled⟩ := List.exists_cons_of_ne_nil some
  rw [spelled, List.headD_cons] at letter
  rw [text, spelled, List.compare_cons_cons, compare_lt_iff_lt.mpr (lt_of_le_of_lt digit letter)]
  rfl

/-! ### Places of names -/

/-- One text comes before another. -/
def Before (first second : Text) : Prop := compare first second = .lt

theorem before_asymm (first second : Text) (before : Before first second) : ¬Before second first :=
  Std.OrientedCmp.not_lt_of_lt before

/-- A number with one digit has its own place if all smaller numbers are there, and nothing else comes before it. -/
theorem place_eq_number {keys : List Text} (ordered : keys.Pairwise Before) {place number : ℕ} (small : number < 10)
    (here : keys[place]? = some (toText number)) (filled : ∀ less < number, toText (less : ℕ) ∈ keys)
    (only : ∀ other ∈ keys, Before other (toText number) → ∃ less : ℕ, less < 10 ∧ other = toText less) :
    place = number := by
  have distinct : ((List.range number).map fun less : ℕ => toText less).Nodup :=
    List.nodup_range.map fun first second same => Int.ofNat_inj.mp (toText_injective same)
  have same := Sweep.place_eq_length before_asymm ordered here distinct fun other => ?_
  · rwa [List.length_map, List.length_range] at same
  · simp only [List.mem_map, List.mem_range]
    constructor
    · rintro ⟨less, below, rfl⟩
      refine ⟨filled less below, ?_⟩
      rw [Before, compare_toText (below.trans small) small]
      exact compare_lt_iff_lt.mpr below
    · rintro ⟨member, before⟩
      obtain ⟨less, digit, rfl⟩ := only other member before
      rw [Before, compare_toText digit small] at before
      exact ⟨less, compare_lt_iff_lt.mp before, rfl⟩

/-- Numbers that have their own places have one digit. -/
theorem place_lt_ten {keys : List Text} (ordered : keys.Pairwise Before) {place : ℕ}
    (numbered : ∀ other ≤ place, keys[other]? = some (toText other)) : place < 10 := by
  by_contra many
  obtain ⟨two, second⟩ := List.getElem?_eq_some_iff.mp (numbered 2 (by omega))
  obtain ⟨ten, tenth⟩ := List.getElem?_eq_some_iff.mp (numbered 10 (by omega))
  have before := List.pairwise_iff_getElem.mp ordered 2 10 two ten (by decide)
  rw [second, tenth] at before
  exact absurd before (show ¬compare (toText (2 : ℕ)) (toText (10 : ℕ)) = .lt by decide)

/-! ### The children of the node -/

/-- A child is a layer that has temporal layers, or a statistic of the manager. -/
def TidyChild (name : Text) (child : NodeMap MovingIntervalRateStat) : Prop :=
  (∃ own ∈ ownNames, name = own.toList) ∧ child = ∅ ∨
    (∃ layer, name = toText layer) ∧ (∃ temporalName, temporalName ∈ child) ∧
      ∀ temporalName ∈ child, ∃ layer, temporalName = toText layer

/-- The node has layers and statistics of the manager only. -/
def Tidy (layers : QualityLayers) : Prop := ∀ name child, layers[name]? = some child → TidyChild name child

/-- A spatial and a temporal layer have been inserted. -/
def Inserted (layers : QualityLayers) (spatialLayer temporalLayer : ℤ) : Prop :=
  ∃ child, layers[toText spatialLayer]? = some child ∧ toText temporalLayer ∈ child

/-- The layers begin with zero and leave nothing out, and there are ten spatial and ten temporal ones at most. -/
def Contiguous (inserted : ℤ → ℤ → Prop) : Prop :=
  ∀ spatialLayer temporalLayer, inserted spatialLayer temporalLayer →
    (0 ≤ spatialLayer ∧ spatialLayer < 10 ∧ 0 ≤ temporalLayer ∧ temporalLayer < 10) ∧
      (∀ lower : ℕ, lower < spatialLayer → ∃ temporalLayer, inserted lower temporalLayer) ∧
        ∀ lower : ℕ, lower < temporalLayer → inserted spatialLayer lower

/-- The places of the children are the numbers of the layers. -/
def InOrder (layers : QualityLayers) : Prop :=
  ∀ (spatialPlace temporalPlace : ℕ) name child temporalName stat,
    layers.toList[spatialPlace]? = some (name, child) → child.toList[temporalPlace]? = some (temporalName, stat) →
      name = toText spatialPlace ∧ temporalName = toText temporalPlace

section Order

variable {ν : Type} {map : NodeMap ν}

theorem ordered_keys (map : NodeMap ν) : map.keys.Pairwise Before := Std.ExtTreeMap.ordered_keys

theorem keys_getElem? (map : NodeMap ν) (place : ℕ) : map.keys[place]? = map.toList[place]?.map Prod.fst := by
  rw [← Std.ExtTreeMap.map_fst_toList_eq_keys, List.getElem?_map]

theorem getElem?_of_toList {place : ℕ} {name : Text} {value : ν} (here : map.toList[place]? = some (name, value)) :
    map[name]? = some value :=
  Std.ExtTreeMap.mem_toList_iff_getElem?_eq_some.mp (List.mem_of_getElem? here)

theorem exists_place {name : Text} {value : ν} (found : map[name]? = some value) :
    ∃ place : ℕ, map.toList[place]? = some (name, value) :=
  List.getElem?_of_mem (Std.ExtTreeMap.mem_toList_iff_getElem?_eq_some.mpr found)

/-- There is something at a place in front of another. -/
theorem exists_toList_of_lt {place later : ℕ} {entry : Text × ν} (here : map.toList[later]? = some entry)
    (less : place < later) : ∃ name value, map.toList[place]? = some (name, value) := by
  obtain ⟨inside, -⟩ := List.getElem?_eq_some_iff.mp here
  exact ⟨_, _, List.getElem?_eq_getElem (less.trans inside)⟩

theorem before_of_toList {place later : ℕ} {first second : Text × ν} (front : map.toList[place]? = some first)
    (here : map.toList[later]? = some second) (less : place < later) : Before first.1 second.1 := by
  obtain ⟨early, rfl⟩ := List.getElem?_eq_some_iff.mp front
  obtain ⟨late, rfl⟩ := List.getElem?_eq_some_iff.mp here
  exact List.pairwise_iff_getElem.mp Std.ExtTreeMap.ordered_keys_toList place later early late less

theorem mem_iff_exists {name : Text} : name ∈ map ↔ ∃ value, map[name]? = some value := by
  rw [Std.ExtTreeMap.mem_iff_isSome_getElem?, Option.isSome_iff_exists]

theorem mem_getD_iff {found : Option (NodeMap ν)} {name : Text} :
    name ∈ found.getD ∅ ↔ ∃ map, found = some map ∧ name ∈ map := by
  cases found with
  | none => simp
  | some map => simp

end Order

section Places

variable {layers : QualityLayers}

/-- A child with temporal layers is a layer. -/
theorem Tidy.layer (tidy : Tidy layers) {name : Text} {child : NodeMap MovingIntervalRateStat}
    (found : layers[name]? = some child) {temporalName : Text} (inside : temporalName ∈ child) :
    ∃ spatialLayer temporalLayer, name = toText spatialLayer ∧ temporalName = toText temporalLayer ∧
      Inserted layers spatialLayer temporalLayer := by
  rcases tidy name child found with ⟨-, rfl⟩ | ⟨⟨layer, rfl⟩, -, numbers⟩
  · exact absurd inside Std.ExtTreeMap.not_mem_empty
  · obtain ⟨temporalLayer, rfl⟩ := numbers temporalName inside
    exact ⟨layer, temporalLayer, rfl, rfl, child, found, inside⟩

/-- What comes before a layer is a layer. -/
theorem Tidy.before (tidy : Tidy layers) {name : Text} (member : name ∈ layers.keys) {layer : ℤ}
    (before : Before name (toText layer)) :
    ∃ child temporalName, layers[name]? = some child ∧ temporalName ∈ child := by
  obtain ⟨child, found⟩ := mem_iff_exists.mp (Std.ExtTreeMap.mem_keys.mp member)
  rcases tidy name child found with ⟨⟨own, listed, rfl⟩, -⟩ | ⟨-, ⟨temporalName, inside⟩, -⟩
  · exact absurd before (before_asymm _ _ (compare_ownName layer listed))
  · exact ⟨child, temporalName, found, inside⟩

/-- **Contiguous layers are in order.** -/
theorem inOrder_of_contiguous (tidy : Tidy layers) (contiguous : Contiguous (Inserted layers)) : InOrder layers := by
  intro spatialPlace temporalPlace name child temporalName stat here there
  have found := getElem?_of_toList here
  have inside : temporalName ∈ child := mem_iff_exists.mpr ⟨stat, getElem?_of_toList there⟩
  obtain ⟨spatialLayer, temporalLayer, rfl, rfl, inserted⟩ := tidy.layer found inside
  obtain ⟨⟨positive, small, nonnegative, few⟩, spatial, temporal⟩ := contiguous _ _ inserted
  obtain ⟨spatialLayer, rfl⟩ := Int.eq_ofNat_of_zero_le positive
  obtain ⟨temporalLayer, rfl⟩ := Int.eq_ofNat_of_zero_le nonnegative
  have first : spatialPlace = spatialLayer := by
    refine place_eq_number (ordered_keys layers) (by omega) ?_ (fun less below => ?_) fun other member before => ?_
    · rw [keys_getElem?, here, Option.map_some]
    · obtain ⟨_, lower, found, -⟩ := spatial less (by exact_mod_cast below)
      exact Std.ExtTreeMap.mem_keys.mpr (mem_iff_exists.mpr ⟨lower, found⟩)
    · obtain ⟨_, _, found, inside⟩ := tidy.before member before
      obtain ⟨layer, _, rfl, -, inserted⟩ := tidy.layer found inside
      obtain ⟨⟨positive, small, -, -⟩, -, -⟩ := contiguous _ _ inserted
      exact ⟨layer.toNat, by omega, by rw [Int.toNat_of_nonneg positive]⟩
  have second : temporalPlace = temporalLayer := by
    refine place_eq_number (ordered_keys child) (by omega) ?_ (fun less below => ?_) fun other member before => ?_
    · rw [keys_getElem?, there, Option.map_some]
    · obtain ⟨same, again, listed⟩ := temporal less (by exact_mod_cast below)
      obtain rfl : same = child := Option.some.inj (again.symm.trans found)
      exact Std.ExtTreeMap.mem_keys.mpr listed
    · obtain ⟨_, layer, same, rfl, inserted⟩ := tidy.layer found (Std.ExtTreeMap.mem_keys.mp member)
      rw [← toText_injective same] at inserted
      obtain ⟨⟨-, -, positive, small⟩, -, -⟩ := contiguous _ _ inserted
      exact ⟨layer.toNat, by omega, by rw [Int.toNat_of_nonneg positive]⟩
  rw [first, second]
  exact ⟨rfl, rfl⟩

/-- **Layers in order are contiguous.** -/
theorem contiguous_of_inOrder (tidy : Tidy layers) (inOrder : InOrder layers) : Contiguous (Inserted layers) := by
  rintro spatialLayer temporalLayer ⟨child, found, inside⟩
  obtain ⟨stat, stored⟩ := mem_iff_exists.mp inside
  obtain ⟨spatialPlace, here⟩ := exists_place found
  obtain ⟨temporalPlace, there⟩ := exists_place stored
  obtain ⟨spatialNumber, temporalNumber⟩ := inOrder _ _ _ _ _ _ here there
  obtain rfl := toText_injective spatialNumber
  obtain rfl := toText_injective temporalNumber
  have first : ∀ place < spatialPlace, ∃ child temporalName,
      layers.toList[place]? = some (toText (place : ℕ), child) ∧ temporalName ∈ child := by
    intro place below
    obtain ⟨name, lower, front⟩ := exists_toList_of_lt here below
    have before : Before name (toText (spatialPlace : ℕ)) := before_of_toList front here below
    have member := Std.ExtTreeMap.mem_keys.mpr (mem_iff_exists.mpr ⟨lower, getElem?_of_toList front⟩)
    obtain ⟨same, temporalName, again, listed⟩ := tidy.before member before
    obtain rfl : same = lower := Option.some.inj (again.symm.trans (getElem?_of_toList front))
    obtain ⟨stat, stored⟩ := mem_iff_exists.mp listed
    obtain ⟨temporalPlace, within⟩ := exists_place stored
    exact ⟨same, temporalName, (inOrder _ _ _ _ _ _ front within).1 ▸ front, listed⟩
  have second : ∀ place < temporalPlace, ∃ stat, child.toList[place]? = some (toText (place : ℕ), stat) := by
    intro place below
    obtain ⟨name, stat, front⟩ := exists_toList_of_lt there below
    exact ⟨stat, (inOrder _ _ _ _ _ _ here front).2 ▸ front⟩
  have spatialSmall : spatialPlace < 10 := place_lt_ten (ordered_keys layers) fun other below => by
    rcases below.lt_or_eq with less | rfl
    · obtain ⟨_, _, front, -⟩ := first other less
      rw [keys_getElem?, front, Option.map_some]
    · rw [keys_getElem?, here, Option.map_some]
  have temporalSmall : temporalPlace < 10 := place_lt_ten (ordered_keys child) fun other below => by
    rcases below.lt_or_eq with less | rfl
    · obtain ⟨_, front⟩ := second other less
      rw [keys_getElem?, front, Option.map_some]
    · rw [keys_getElem?, there, Option.map_some]
  refine ⟨by omega, fun lower below => ?_, fun lower below => ?_⟩
  · obtain ⟨child, temporalName, front, listed⟩ := first lower (by exact_mod_cast below)
    obtain ⟨_, temporalLayer, same, -, inserted⟩ := tidy.layer (getElem?_of_toList front) listed
    exact ⟨temporalLayer, toText_injective same ▸ inserted⟩
  · obtain ⟨stat, front⟩ := second lower (by exact_mod_cast below)
    exact ⟨child, found, mem_iff_exists.mpr ⟨stat, getElem?_of_toList front⟩⟩

theorem inOrder_iff_contiguous (tidy : Tidy layers) : InOrder layers ↔ Contiguous (Inserted layers) :=
  ⟨contiguous_of_inOrder tidy, inOrder_of_contiguous tidy⟩

end Places

/-! ### The node along a run -/

/-- If there is a node, it is tidy. -/
def TidyNode (node : Option QualityLayers) : Prop := ∀ layers ∈ node, Tidy layers

/-- A layer has been inserted into a node. -/
def InsertedNode (node : Option QualityLayers) (spatialLayer temporalLayer : ℤ) : Prop :=
  Inserted (node.getD ∅) spatialLayer temporalLayer

theorem tidy_getD {node : Option QualityLayers} (tidy : TidyNode node) : Tidy (node.getD ∅) := by
  cases node with
  | none => exact fun name child found => absurd found (by simp)
  | some layers => exact tidy layers rfl

/-- A tidy child is inserted. -/
theorem tidy_insert {layers : QualityLayers} (tidy : Tidy layers) {name : Text} {child : NodeMap MovingIntervalRateStat}
    (fits : TidyChild name child) : TidyNode (some (layers.insert name child)) := by
  intro inserted same other found present
  rw [← Option.some.inj same, Std.ExtTreeMap.getElem?_insert] at present
  split at present
  · next here =>
      rw [← Std.LawfulEqCmp.eq_of_compare here, ← Option.some.inj present]
      exact fits
  · exact tidy other found present

/-- The node stays tidy, and has the same layers. -/
def SameLayers (before after : Option QualityLayers) : Prop :=
  TidyNode before → TidyNode after ∧ ∀ spatialLayer temporalLayer,
    InsertedNode after spatialLayer temporalLayer ↔ InsertedNode before spatialLayer temporalLayer

section SameLayers

variable {before between after : Option QualityLayers}

theorem SameLayers.refl (node : Option QualityLayers) : SameLayers node node := fun tidy => ⟨tidy, fun _ _ => Iff.rfl⟩

theorem SameLayers.trans (earlier : SameLayers before between) (later : SameLayers between after) :
    SameLayers before after := by
  intro tidy
  obtain ⟨kept, same⟩ := earlier tidy
  obtain ⟨last, still⟩ := later kept
  exact ⟨last, fun spatialLayer temporalLayer => (still _ _).trans (same _ _)⟩

theorem sameLayers_getD (node : Option QualityLayers) : SameLayers node (some (node.getD ∅)) :=
  fun tidy => ⟨fun _ same => Option.some.inj same ▸ tidy_getD tidy, fun _ _ => Iff.rfl⟩

theorem sameLayers_insertStat (node : Option QualityLayers) {name : String} (own : name ∈ ownNames) :
    SameLayers node (QualityManager.insertStat node name) := by
  refine fun tidy => ⟨tidy_insert (tidy_getD tidy) (Or.inl ⟨⟨name, own, rfl⟩, rfl⟩), fun spatialLayer temporalLayer => ?_⟩
  have other : compare name.toList (toText spatialLayer) ≠ .eq := fun same =>
    absurd ((Std.LawfulEqCmp.eq_of_compare same) ▸ compare_ownName spatialLayer own) (by simp)
  simp only [InsertedNode, Inserted, QualityManager.insertStat, Option.getD_some, Std.ExtTreeMap.getElem?_insert,
    if_neg other]

end SameLayers

namespace LayerBitrateCalculationHandler

/-- A layer of a packet is inserted. -/
theorem inserted_countLayer (length : ℤ) (now : UInt64) (layer : ℤ × ℤ) {node : Option QualityLayers}
    (tidy : TidyNode node) :
    TidyNode (countLayer length now node layer) ∧ ∀ spatialLayer temporalLayer,
      InsertedNode (countLayer length now node layer) spatialLayer temporalLayer ↔
        layer = (spatialLayer, temporalLayer) ∨ InsertedNode node spatialLayer temporalLayer := by
  have before := tidy_getD tidy
  unfold countLayer
  refine ⟨?_, fun spatialLayer temporalLayer => ?_⟩
  · refine tidy_insert before (Or.inr ⟨⟨layer.1, rfl⟩, ⟨_, Std.ExtTreeMap.mem_insert_self⟩, fun name inside => ?_⟩)
    rcases Std.ExtTreeMap.mem_insert.mp inside with here | other
    · exact ⟨layer.2, (Std.LawfulEqCmp.eq_of_compare here).symm⟩
    · cases found : (node.getD ∅)[toText layer.1]? with
      | none =>
          rw [found] at other
          exact absurd other Std.ExtTreeMap.not_mem_empty
      | some child =>
          rw [found] at other
          obtain ⟨_, temporalLayer, -, same, -⟩ := before.layer found other
          exact ⟨temporalLayer, same⟩
  · rw [InsertedNode, InsertedNode, Option.getD_some, Inserted, Inserted, Std.ExtTreeMap.getElem?_insert]
    by_cases here : layer.1 = spatialLayer
    · rw [if_pos ((compare_toText_eq _ _).mpr here), ← mem_getD_iff, ← mem_getD_iff, Option.getD_some,
        Std.ExtTreeMap.mem_insert, compare_toText_eq, here, Prod.ext_iff]
      simp only [here, true_and]
    · rw [if_neg (fun same => here ((compare_toText_eq _ _).mp same)), Prod.ext_iff]
      simp only [here, false_and, false_or]

theorem inserted_write (handler : LayerBitrateCalculationHandler) (packet : LayeredPacket) (now : UInt64)
    {node : Option QualityLayers} (tidy : TidyNode node) :
    TidyNode (handler.write packet now node) ∧ ∀ spatialLayer temporalLayer,
      InsertedNode (handler.write packet now node) spatialLayer temporalLayer ↔
        (handler.enabled && handler.initialized) = true ∧ (spatialLayer, temporalLayer) ∈ layersOf packet ∨
          InsertedNode node spatialLayer temporalLayer := by
  unfold write
  split
  · next counts =>
      simp only [counts, true_and]
      generalize layersOf packet = layers
      induction layers generalizing node with
      | nil => exact ⟨tidy, fun _ _ => by simp⟩
      | cons layer rest ih =>
          obtain ⟨first, here⟩ := inserted_countLayer packet.length now layer tidy
          obtain ⟨last, others⟩ := ih first
          refine ⟨last, fun spatialLayer temporalLayer => ?_⟩
          rw [List.foldl_cons, others, here, List.mem_cons, ← or_assoc, or_comm (a := _ ∈ rest), eq_comm]
  · next silent => exact ⟨tidy, fun _ _ => by simp [silent]⟩

end LayerBitrateCalculationHandler

namespace QualityManager

variable (node : Option QualityLayers)

theorem sameLayers_switchLayer (manager : QualityManager) (spatialLayer temporalLayer : ℤ) :
    SameLayers node (manager.switchLayer node spatialLayer temporalLayer).2 := by
  unfold switchLayer
  split
  · exact (sameLayers_insertStat node (by decide)).trans (sameLayers_insertStat _ (by decide))
  · exact SameLayers.refl node

theorem sameLayers_selectLayer (manager : QualityManager) (threshold : ℚ) (readings : QualityReadings)
    (tryHigherLayers : Bool) :
    SameLayers node (manager.selectLayer threshold readings node tryHigherLayers).2.1 := by
  unfold selectLayer
  split
  · exact SameLayers.refl none
  · next layers =>
      split
      · exact SameLayers.refl _
      · exact (sameLayers_switchLayer (some layers) _ _ _).trans (sameLayers_insertStat _ (by decide))

theorem sameLayers_calculateMaxActiveLayer (manager : QualityManager) (readings : QualityReadings) :
    SameLayers node (manager.calculateMaxActiveLayer readings node).2.1 :=
  (sameLayers_insertStat node (by decide)).trans (sameLayers_insertStat _ (by decide))

theorem sameLayers_checkActivity (manager : QualityManager) (readings : QualityReadings) :
    SameLayers node (manager.checkActivity readings node).2.1 := by
  unfold checkActivity
  split
  · exact sameLayers_calculateMaxActiveLayer node manager readings
  · exact SameLayers.refl node

theorem sameLayers_checkQuality (manager : QualityManager) (threshold : ℚ) (readings : QualityReadings) (under : Bool) :
    SameLayers node (manager.checkQuality threshold readings node under).2.1 := by
  unfold checkQuality
  dsimp only
  split
  · exact sameLayers_selectLayer node manager threshold readings false
  · split
    · exact sameLayers_selectLayer node manager threshold readings true
    · exact SameLayers.refl node

theorem sameLayers_notifyQualityUpdate (manager : QualityManager) (threshold : ℚ) (readings : QualityReadings) :
    SameLayers node (manager.notifyQualityUpdate threshold readings node).2.1 := by
  unfold notifyQualityUpdate
  split
  · exact SameLayers.refl node
  · dsimp only
    split
    · exact SameLayers.refl node
    · exact (sameLayers_getD node).trans ((sameLayers_checkActivity _ _ readings).trans
        (sameLayers_checkQuality _ _ threshold readings _))

end QualityManager

namespace LayerSelection

/-- The layers of a packet that the handler counts. -/
def layersWritten (selection : LayerSelection) : Input → List (ℤ × ℤ)
  | .write packet _ _ =>
      if selection.handler.enabled && selection.handler.initialized then
        LayerBitrateCalculationHandler.layersOf packet
      else []
  | _ => []

/-- The layers that the handler has inserted along a run. -/
def layersInserted (threshold : ℚ) : LayerSelection → List Input → List (ℤ × ℤ)
  | _, [] => []
  | selection, input :: rest =>
      layersWritten selection input ++ layersInserted threshold (step threshold selection input).1 rest

/-- A call leaves the node tidy, and inserts the layers of a packet that is counted. -/
theorem inserted_step (threshold : ℚ) (selection : LayerSelection) (input : Input) (tidy : TidyNode selection.node) :
    TidyNode (step threshold selection input).1.node ∧ ∀ spatialLayer temporalLayer,
      InsertedNode (step threshold selection input).1.node spatialLayer temporalLayer ↔
        (spatialLayer, temporalLayer) ∈ layersWritten selection input ∨
          InsertedNode selection.node spatialLayer temporalLayer := by
  have still : ∀ {node : Option QualityLayers}, SameLayers selection.node node →
      TidyNode node ∧ ∀ spatialLayer temporalLayer, InsertedNode node spatialLayer temporalLayer ↔
        (spatialLayer, temporalLayer) ∈ ([] : List (ℤ × ℤ)) ∨
          InsertedNode selection.node spatialLayer temporalLayer := fun same => by simpa using same tidy
  cases input with
  | write packet now readings =>
      unfold step write layersWritten
      dsimp only
      by_cases counts : (selection.handler.enabled && selection.handler.initialized) = true
      · rw [if_pos counts, if_pos counts]
        obtain ⟨written, inserted⟩ := LayerBitrateCalculationHandler.inserted_write selection.handler packet now tidy
        obtain ⟨kept, same⟩ := QualityManager.sameLayers_notifyQualityUpdate
          (selection.handler.write packet now selection.node) selection.manager threshold readings written
        refine ⟨kept, fun spatialLayer temporalLayer => (same _ _).trans ((inserted _ _).trans ?_)⟩
        rw [and_iff_right counts]
      · rw [if_neg counts, if_neg counts]
        exact still (SameLayers.refl _)
  | enableSlideShowBelowSpatialLayer readings enabled spatialLayer =>
      unfold step withOutcome QualityManager.enableSlideShowBelowSpatialLayer
      dsimp only
      split
      · exact still (SameLayers.refl _)
      · exact still (QualityManager.sameLayers_selectLayer selection.node _ threshold readings true)
  | setVideoConstraints readings maxVideoWidth maxVideoHeight maxVideoFrameRate =>
      exact still (QualityManager.sameLayers_selectLayer selection.node _ threshold readings true)
  | enableHandler => exact still (SameLayers.refl _)
  | disableHandler => exact still (SameLayers.refl _)
  | notifyUpdate hasServices => exact still (SameLayers.refl _)
  | enableManager => exact still (SameLayers.refl _)
  | disableManager => exact still (SameLayers.refl _)
  | notifyEvent event => exact still (SameLayers.refl _)
  | forceLayers spatialLayer temporalLayer => exact still (SameLayers.refl _)

/-- **After a run the node is tidy, and has the layers of the packets that were counted.** -/
theorem inserted_run (threshold : ℚ) (inputs : List Input) : ∀ selection : LayerSelection, TidyNode selection.node →
    TidyNode (Machine.run (step threshold) selection inputs).node ∧ ∀ spatialLayer temporalLayer,
      InsertedNode (Machine.run (step threshold) selection inputs).node spatialLayer temporalLayer ↔
        (spatialLayer, temporalLayer) ∈ layersInserted threshold selection inputs ∨
          InsertedNode selection.node spatialLayer temporalLayer := by
  induction inputs with
  | nil => exact fun selection tidy => ⟨tidy, fun _ _ => by simp [layersInserted]⟩
  | cons input rest ih =>
      intro selection tidy
      obtain ⟨first, here⟩ := inserted_step threshold selection input tidy
      obtain ⟨last, others⟩ := ih _ first
      refine ⟨last, fun spatialLayer temporalLayer => ?_⟩
      rw [Machine.run_cons, others, here, layersInserted, List.mem_append, or_left_comm, or_assoc]

end LayerSelection

end Erizo
