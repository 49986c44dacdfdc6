import EncosDriver.Adapter.Extend
import EncosDriver.Lib.Bytes

set_option autoImplicit false

namespace EncosDriver.Adapter.Extend

open Lib

theorem mem_items (object : Table Text Json) (key : Text) (value : Json) :
    (key, value) ∈ items object ↔ object.find key = some value := by
  rw [items, (List.mergeSort_perm ..).mem_iff, Table.mem_to_list]

theorem items_distinct (object : Table Text Json) : ((items object).map Prod.fst).Nodup :=
  ((List.mergeSort_perm object.toList _).map Prod.fst).nodup_iff.mpr (Table.to_list_distinct object)

variable (members : List (Text × Json))

theorem find_collapse (distinct : (members.map Prod.fst).Nodup) (key : Text) (value : Json) :
    (collapse members).find key = some value ↔ (key, value) ∈ members := by
  constructor
  · intro found
    by_cases named : key ∈ members.map Prod.fst
    · obtain ⟨⟨_, other⟩, listed, rfl⟩ := List.mem_map.mp named
      rw [collapse, Table.find_put_all ∅ members distinct _ other listed] at found
      cases found
      exact listed
    · rw [collapse, Table.find_put_all_other ∅ members key named] at found
      cases found
  · exact Table.find_put_all ∅ members distinct key value

theorem items_collapse (distinct : (members.map Prod.fst).Nodup) :
    (items (collapse members)).Perm members := by
  refine (List.perm_ext_iff_of_nodup (items_distinct _).of_map distinct.of_map).mpr fun member => ?_
  rw [mem_items, find_collapse members distinct]

def Apart (first second : Text × Json) : Prop := ∀ bus, parseBusKey first.1 = .ok bus → parseBusKey second.1 ≠ .ok bus

theorem apart_symmetric (first second : Text × Json) (apart : Apart first second) : Apart second first :=
  fun bus parsed parsed' => apart bus parsed' parsed

def NamesTwice (buses : List (Text × Json)) : Prop := ¬ buses.Pairwise Apart

def Shaped (buses : List (Text × Json)) : Prop :=
  ∀ member ∈ buses, (∃ fields, member.2 = .object fields) ∧ ∃ bus, parseBusKey member.1 = .ok bus

theorem add_bus_iff (result next : AdapterExtend) (member : Text × Json) : addBus result member = .ok next ↔
    ∃ fields bus, member.2 = .object fields ∧ parseBusKey member.1 = .ok bus ∧
      result.busOverrides.find (packBus bus.1 bus.2) = none ∧
      next = { result with
        busOverrides := result.busOverrides.emplace (packBus bus.1 bus.2) (collapse fields)
        declaredBuses := result.declaredBuses ++ [bus] } := by
  obtain ⟨key, value⟩ := member
  unfold addBus
  dsimp only
  cases value with
  | scalar text | array items =>
    constructor
    · intro made
      cases made
    · rintro ⟨_, _, shape, -⟩
      cases shape
  | object fields =>
    dsimp only
    cases parsed : parseBusKey key with
    | error error =>
      constructor
      · intro made
        cases made
      · rintro ⟨_, _, -, named, -⟩
        cases named
    | ok bus =>
      simp only [Except.bind, bind]
      have present : result.busOverrides.contains (packBus bus.1 bus.2) = (result.busOverrides.find (packBus bus.1 bus.2)).isSome := rfl
      cases taken : result.busOverrides.contains (packBus bus.1 bus.2) with
      | true =>
        rw [if_pos rfl]
        refine ⟨(fun made => by cases made), ?_⟩
        rintro ⟨_, _, _, ⟨⟩, free, _⟩
        rw [present, free] at taken
        cases taken
      | false =>
        rw [if_neg Bool.false_ne_true]
        rw [present, Option.isSome_eq_false_iff, Option.isNone_iff_eq_none] at taken
        constructor
        · intro made
          exact ⟨fields, bus, rfl, rfl, taken, (Except.ok.inj made).symm⟩
        · rintro ⟨_, _, ⟨⟩, ⟨⟩, _, made⟩
          rw [made]

structure Added (buses : List (Text × Json)) (before after : AdapterExtend) : Prop where
  shaped : Shaped buses
  apart : buses.Pairwise Apart
  common : after.common = before.common
  own : ∀ member ∈ buses, ∀ fields bus, member.2 = .object fields → parseBusKey member.1 = .ok bus →
    before.busOverrides.find (packBus bus.1 bus.2) = none ∧
      after.busOverrides.find (packBus bus.1 bus.2) = some (collapse fields)
  others : ∀ index, (∀ member ∈ buses, ∀ bus, parseBusKey member.1 = .ok bus → packBus bus.1 bus.2 ≠ index) →
    after.busOverrides.find index = before.busOverrides.find index

theorem add_buses_ok (buses : List (Text × Json)) (before after : AdapterExtend)
    (ran : buses.foldlM addBus before = .ok after) : Added buses before after := by
  induction buses generalizing before with
  | nil =>
    cases ran
    exact ⟨nofun, .nil, rfl, nofun, fun _ _ => rfl⟩
  | cons member rest ih =>
    rw [List.foldlM_cons] at ran
    cases first : addBus before member with
    | error error =>
      rw [first] at ran
      cases ran
    | ok next =>
      rw [first] at ran
      obtain ⟨fields, bus, object, parsed, free, made⟩ := (add_bus_iff before next member).mp first
      have later := ih next ran
      have put (index : Nat) : next.busOverrides.find index =
          if index = packBus bus.1 bus.2 then some (collapse fields) else before.busOverrides.find index := by
        rw [made]
        exact Table.find_emplace_absent _ _ _ _ free
      have elsewhere : ∀ other ∈ rest, ∀ bus', parseBusKey other.1 = .ok bus' →
          packBus bus'.1 bus'.2 ≠ packBus bus.1 bus.2 := by
        intro other inside bus' parsed' same
        obtain ⟨⟨fields', object'⟩, _⟩ := later.shaped other inside
        have free' := (later.own other inside fields' bus' object' parsed').1
        rw [put, if_pos same] at free'
        cases free'
      refine ⟨?_, ?_, ?_, ?_, ?_⟩
      · intro other inside
        rcases List.mem_cons.mp inside with rfl | inside
        · exact ⟨⟨fields, object⟩, bus, parsed⟩
        · exact later.shaped other inside
      · refine List.pairwise_cons.mpr ⟨fun other inside bus' parsed' parsed'' => ?_, later.apart⟩
        rw [parsed] at parsed'
        cases parsed'
        exact elsewhere other inside bus parsed'' rfl
      · rw [later.common, made]
      · intro other inside fields' bus' object' parsed'
        rcases List.mem_cons.mp inside with rfl | inside
        · rw [object] at object'
          rw [parsed] at parsed'
          cases object'
          cases parsed'
          refine ⟨free, ?_⟩
          rw [later.others _ elsewhere, put, if_pos rfl]
        · obtain ⟨free', found⟩ := later.own other inside fields' bus' object' parsed'
          rw [put, if_neg (elsewhere other inside bus' parsed')] at free'
          exact ⟨free', found⟩
      · intro index unnamed
        have other : index ≠ packBus bus.1 bus.2 := fun same => unnamed member List.mem_cons_self bus parsed same.symm
        rw [later.others index fun other inside => unnamed other (List.mem_cons_of_mem _ inside), put, if_neg other]

theorem add_buses_complete (buses : List (Text × Json)) (before : AdapterExtend) (shaped : Shaped buses)
    (apart : buses.Pairwise Apart)
    (free : ∀ member ∈ buses, ∀ bus, parseBusKey member.1 = .ok bus → before.busOverrides.find (packBus bus.1 bus.2) = none) :
    ∃ after, buses.foldlM addBus before = .ok after := by
  induction buses generalizing before with
  | nil => exact ⟨before, rfl⟩
  | cons member rest ih =>
    obtain ⟨⟨fields, object⟩, bus, parsed⟩ := shaped member List.mem_cons_self
    obtain ⟨separate, apart⟩ := List.pairwise_cons.mp apart
    have freeHere := free member List.mem_cons_self bus parsed
    have first := (add_bus_iff before _ member).mpr ⟨fields, bus, object, parsed, freeHere, rfl⟩
    rw [List.foldlM_cons, first]
    refine ih _ (fun other inside => shaped other (List.mem_cons_of_mem _ inside)) apart ?_
    intro other inside bus' parsed'
    dsimp only
    rw [Table.find_emplace_absent _ _ _ _ freeHere, if_neg]
    · exact free other (List.mem_cons_of_mem _ inside) bus' parsed'
    · intro same
      have sameBus := (pack_injective other.1 member.1 bus' bus parsed' parsed).mp same
      subst sameBus
      exact separate other inside bus' parsed parsed'

theorem add_commons (before : AdapterExtend) (others : ∀ member ∈ members, member.1 ≠ kBusesKey) :
    members.foldlM addMember before = .ok { before with common := before.common.putAll members } := by
  induction members generalizing before with
  | nil => rfl
  | cons member rest ih =>
    rw [List.foldlM_cons, addMember, if_pos (others member List.mem_cons_self)]
    exact ih _ fun other inside => others other (List.mem_cons_of_mem _ inside)

def Declares (top buses : List (Text × Json)) : Prop :=
  (collapse top).find kBusesKey = some (.object buses) ∨ (collapse top).find kBusesKey = none ∧ buses = []

def commonOf (top : List (Text × Json)) : Table Text Json := (collapse top).remove kBusesKey

theorem find_parts (top front back : List (Text × Json))
    (listed : ∀ key value, (key, value) ∈ front ++ back ↔ (key, value) ∈ items (collapse top) ∧ key ≠ kBusesKey)
    (distinct : ((front ++ back).map Prod.fst).Nodup) (key : Text) :
    (((∅ : Table Text Json).putAll front).putAll back).find key = (commonOf top).find key := by
  have whole : ((∅ : Table Text Json).putAll front).putAll back = collapse (front ++ back) := by
    simp only [collapse, Table.putAll, List.foldl_append]
  rw [whole, commonOf, Table.find_remove]
  refine Option.ext fun value => ?_
  rw [find_collapse _ distinct, listed, mem_items]
  split
  · rename_i same
    exact ⟨fun other => absurd same other.2, fun found => by cases found⟩
  · rename_i other
    exact ⟨fun found => found.1, fun found => ⟨found, other⟩⟩

variable (top buses : List (Text × Json))

theorem parse_document (declares : Declares top buses) :
    ∃ before : AdapterExtend, before.busOverrides = ∅ ∧ ∃ finish : AdapterExtend → AdapterExtend,
      parse (.document (.object top)) = ((items (collapse buses)).foldlM addBus before).map finish ∧
      ∀ after, after.common = before.common → (finish after).busOverrides = after.busOverrides ∧
        ∀ key, (finish after).common.find key = (commonOf top).find key := by
  have names := items_distinct (collapse top)
  rcases declares with found | ⟨absent, none⟩
  · obtain ⟨front, back, split⟩ := List.append_of_mem ((mem_items (collapse top) kBusesKey (.object buses)).mpr found)
    rw [split, List.map_append, List.map_cons, List.nodup_middle, List.nodup_cons, ← List.map_append] at names
    have others : ∀ member ∈ front ++ back, member.1 ≠ kBusesKey := by
      rintro member inside same
      exact names.1 (List.mem_map.mpr ⟨member, inside, same⟩)
    refine ⟨{ common := (∅ : Table Text Json).putAll front }, rfl,
      fun after => { after with common := after.common.putAll back }, ?_, ?_⟩
    · have first := add_commons front {} fun member inside => others member (List.mem_append_left _ inside)
      have last (after : AdapterExtend) := add_commons back after fun member inside => others member (List.mem_append_right _ inside)
      rw [parse, split, List.foldlM_append, first, ok_bind, List.foldlM_cons, addMember, if_neg (not_not.mpr rfl)]
      dsimp only
      cases (items (collapse buses)).foldlM addBus { common := (∅ : Table Text Json).putAll front } with
      | error error => rfl
      | ok after => exact last after
    · intro after same
      refine ⟨rfl, fun key => ?_⟩
      dsimp only
      rw [same]
      refine find_parts top front back ?_ names.2 key
      intro name value
      rw [split]
      constructor
      · intro inside
        refine ⟨?_, others _ inside⟩
        rcases List.mem_append.mp inside with inside | inside
        · exact List.mem_append_left _ inside
        · exact List.mem_append_right _ (List.mem_cons_of_mem _ inside)
      · rintro ⟨inside, other⟩
        rcases List.mem_append.mp inside with inside | inside
        · exact List.mem_append_left _ inside
        · rcases List.mem_cons.mp inside with same | inside
          · cases same
            exact absurd rfl other
          · exact List.mem_append_right _ inside
  · subst none
    have others : ∀ member ∈ items (collapse top), member.1 ≠ kBusesKey := by
      rintro ⟨name, value⟩ inside rfl
      rw [mem_items, absent] at inside
      cases inside
    have nothing : items (collapse []) = [] := (items_collapse [] List.nodup_nil).eq_nil
    refine ⟨{}, rfl, fun after => { after with common := after.common.putAll (items (collapse top)) }, ?_, ?_⟩
    · rw [nothing]
      exact add_commons _ {} others
    intro after same
    refine ⟨rfl, fun key => ?_⟩
    dsimp only
    rw [same]
    refine find_parts top [] (items (collapse top)) ?_ names key
    intro name value
    rw [List.nil_append]
    exact ⟨fun inside => ⟨inside, others _ inside⟩, fun inside => inside.1⟩

theorem parse_refuses (declares : Declares top buses) (distinct : (buses.map Prod.fst).Nodup) :
    (∃ error, parse (.document (.object top)) = .error error) ↔ ¬ Shaped buses ∨ NamesTwice buses := by
  obtain ⟨before, empty, finish, same, _⟩ := parse_document top buses declares
  have listed := items_collapse buses distinct
  rw [same]
  constructor
  · rintro ⟨error, failed⟩
    by_contra legal
    rw [not_or, not_not, NamesTwice, not_not] at legal
    obtain ⟨after, added⟩ := add_buses_complete (items (collapse buses)) before
      (fun member inside => legal.1 member (listed.mem_iff.mp inside))
      ((listed.pairwise_iff fun {_ _} apart => apart_symmetric _ _ apart).mpr legal.2)
      (fun _ _ bus _ => by rw [empty]; rfl)
    rw [added] at failed
    cases failed
  · intro illegal
    cases ran : (items (collapse buses)).foldlM addBus before with
    | error error => exact ⟨error, rfl⟩
    | ok after =>
      have added := add_buses_ok _ before after ran
      rcases illegal with misshapen | twice
      · exact absurd (fun member inside => added.shaped member (listed.mem_iff.mpr inside)) misshapen
      · exact absurd ((listed.pairwise_iff fun {_ _} apart => apart_symmetric _ _ apart).mp added.apart) twice

theorem scope_fields (declares : Declares top buses) (distinct : (buses.map Prod.fst).Nodup)
    (result : AdapterExtend) (parsed : parse (.document (.object top)) = .ok result) (slave bus : Nat)
    (slaveFits : slave ≤ kMaxSlave) (busFits : bus ≤ kMaxBus) (key : Text) :
    (∀ member ∈ buses, ∀ fields, member.2 = .object fields → parseBusKey member.1 = .ok (slave, bus) →
      (result.scope slave bus).find key = ((collapse fields).find key).or ((commonOf top).find key)) ∧
    ((∀ member ∈ buses, parseBusKey member.1 ≠ .ok (slave, bus)) →
      (result.scope slave bus).find key = (commonOf top).find key) := by
  obtain ⟨before, empty, finish, same, finished⟩ := parse_document top buses declares
  have listed := items_collapse buses distinct
  rw [same] at parsed
  cases ran : (items (collapse buses)).foldlM addBus before with
  | error error =>
    rw [ran] at parsed
    cases parsed
  | ok after =>
    rw [ran] at parsed
    cases parsed
    have added := add_buses_ok _ before after ran
    obtain ⟨overrides, common⟩ := finished after added.common
    unfold AdapterExtend.scope
    rw [overrides]
    refine ⟨?_, ?_⟩
    · intro member inside fields object named
      obtain ⟨_, found⟩ := added.own member (listed.mem_iff.mpr inside) fields (slave, bus) object named
      rw [found]
      dsimp only
      cases field : (collapse fields).find key with
      | some value =>
        rw [Table.find_put_all _ _ (items_distinct _) key value ((mem_items _ key value).mpr field), Option.some_or]
      | none =>
        have unlisted : key ∉ (items (collapse fields)).map Prod.fst := by
          intro named'
          obtain ⟨⟨name, value⟩, here, same⟩ := List.mem_map.mp named'
          subst same
          rw [(mem_items _ name value).mp here] at field
          cases field
        rw [Table.find_put_all_other _ _ key unlisted, common, Option.none_or]
    · intro unnamed
      have absent := added.others (packBus slave bus) fun member inside named parsed' packed => by
        have other := unnamed member (listed.mem_iff.mp inside)
        have canonical := (parse_bus_key_iff (Decimal.print slave ++ ':' :: Decimal.print bus) slave bus).mpr
          ⟨slaveFits, busFits, .inr rfl⟩
        have sameBus := (pack_injective member.1 _ named (slave, bus) parsed' canonical).mp packed
        exact other (sameBus ▸ parsed')
      rw [absent, empty]
      exact common key

theorem extend_bus_keys :
    (∀ key slave bus, parseBusKey key = .ok (slave, bus) ↔ slave ≤ kMaxSlave ∧ bus ≤ kMaxBus ∧
      (key = Decimal.print (slave * 65536 + bus) ∨ key = Decimal.print slave ++ ':' :: Decimal.print bus)) ∧
    (∀ key, parseBusKey key ≠ .error .overflow) ∧
    (∀ first second bus bus', parseBusKey first = .ok bus → parseBusKey second = .ok bus' →
      (packBus bus.1 bus.2 = packBus bus'.1 bus'.2 ↔ bus = bus')) ∧
    (∀ top buses, Declares top buses → (buses.map Prod.fst).Nodup → Shaped buses →
      ((∃ error, parse (.document (.object top)) = .error error) ↔ NamesTwice buses)) ∧
    ∀ top buses result, Declares top buses → (buses.map Prod.fst).Nodup → parse (.document (.object top)) = .ok result →
      ∀ slave bus key, slave ≤ kMaxSlave → bus ≤ kMaxBus →
        (∀ member ∈ buses, ∀ fields, member.2 = .object fields → parseBusKey member.1 = .ok (slave, bus) →
          (result.scope slave bus).find key = ((collapse fields).find key).or ((commonOf top).find key)) ∧
        ((∀ member ∈ buses, parseBusKey member.1 ≠ .ok (slave, bus)) →
          (result.scope slave bus).find key = (commonOf top).find key) := by
  refine ⟨parse_bus_key_iff, parse_bus_key_safe, pack_injective, ?_, ?_⟩
  · intro top buses declares distinct shaped
    rw [parse_refuses top buses declares distinct]
    exact ⟨fun illegal => illegal.resolve_left (not_not.mpr shaped), .inr⟩
  · exact fun top buses result declares distinct parsed slave bus key slaveFits busFits =>
      scope_fields top buses declares distinct result parsed slave bus slaveFits busFits key

def bothSpellings : List (Text × Json) := [("65536".toList, .object []), ("1:0".toList, .object [])]

theorem both_name_one : NamesTwice bothSpellings := by
  intro apart
  have first := (List.pairwise_cons.mp apart).1 _ List.mem_cons_self (1, 0)
  exact first (by decide +kernel) (by decide +kernel)

theorem extend_bus_keys_both_spellings :
    ∃ error, parse (.document (.object [(kBusesKey, .object bothSpellings)])) = .error error := by
  refine (extend_bus_keys.2.2.2.1 [(kBusesKey, .object bothSpellings)] bothSpellings (.inl rfl) (by decide) ?_).mpr both_name_one
  refine List.forall_mem_cons.mpr ⟨⟨⟨[], rfl⟩, (1, 0), by decide +kernel⟩, ?_⟩
  exact List.forall_mem_cons.mpr ⟨⟨⟨[], rfl⟩, (1, 0), by decide +kernel⟩, fun _ none => absurd none List.not_mem_nil⟩

def sameSpelling : List (Text × Json) := [("0".toList, .object [("bitrate".toList, .scalar "1".toList)]), ("0".toList, .object [])]

theorem same_spelling_accepted :
    Shaped sameSpelling ∧ NamesTwice sameSpelling ∧
      (parse (.document (.object [(kBusesKey, .object sameSpelling)]))).isOk = true := by
  have named : parseBusKey "0".toList = .ok (0, 0) := by decide +kernel
  refine ⟨?_, fun apart => ?_, by decide +kernel⟩
  · refine List.forall_mem_cons.mpr ⟨⟨⟨_, rfl⟩, (0, 0), named⟩, ?_⟩
    exact List.forall_mem_cons.mpr ⟨⟨⟨_, rfl⟩, (0, 0), named⟩, fun _ none => absurd none List.not_mem_nil⟩
  · exact (List.pairwise_cons.mp apart).1 _ List.mem_cons_self (0, 0) named named

end EncosDriver.Adapter.Extend
