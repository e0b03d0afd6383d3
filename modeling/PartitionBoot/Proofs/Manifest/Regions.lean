import PartitionBoot.Proofs.DeviceTree.Searches
import PartitionBoot.Proofs.Manifest
import PartitionBoot.Proofs.Manifest.Parsing

/-!
Memory regions in arbitrary bytes. The first entry of the region list that agrees with a name
decides what is found, whatever stands behind it; a fault in front of it is never taken for a region
that is not there.
-/

namespace PartitionBoot

theorem Manifest.agree_iff {left right : List UInt8} :
    agree left right = true ↔ left <+: right ∨ right <+: left := by
  simp only [agree, decide_eq_true_eq]
  obtain short | short := Nat.le_total left.length right.length
  · rw [Nat.min_eq_left short, List.take_length, ← List.prefix_iff_eq_take]
    constructor
    · exact .inl
    · rintro (front | front)
      · exact front
      · cases front.eq_of_length_le short
        exact List.prefix_rfl
  · rw [Nat.min_eq_right short, List.take_length, eq_comm, ← List.prefix_iff_eq_take]
    constructor
    · exact .inr
    · rintro (front | front)
      · cases front.eq_of_length_le short
        exact List.prefix_rfl
      · exact front

namespace DeviceTree

variable {tree : DeviceTree} {node child : Node} {name : List UInt8} {pageSize : UInt64}
  {range : AddressRange} {failure : BootFailure}

namespace PropertyList

variable {list : PropertyList}

/-- The description begins with the name or the name begins with it. -/
def Matches (list : PropertyList) (name : List UInt8) : Prop :=
  ∃ description, list.lookup "description" = .ok (some description) ∧
    (description <+: name ∨ name <+: description)

def Skips (list : PropertyList) (name : List UInt8) : Prop :=
  ∃ description, list.lookup "description" = .ok description ∧
    ∀ text, description = some text → ¬ (text <+: name ∨ name <+: text)

/-- A base address and a number of pages that is not zero, with an extent that fits. -/
def Provides (list : PropertyList) (pageSize : UInt64) (range : AddressRange) : Prop :=
  ∃ base pages, list.Field "base-address" 8 base ∧ list.Field "pages-count" 4 pages ∧
    pages ≠ 0 ∧ pages * pageSize.toNat < UInt64.size ∧ range.base.toNat = base ∧
    range.size.toNat = pages * pageSize.toNat

/-- There is no base address, or no page behind a base address that can be read. -/
def LacksRegion (list : PropertyList) : Prop :=
  list.lookup "base-address" = .ok none ∨ ∃ base, list.Field "base-address" 8 base ∧
    (list.lookup "pages-count" = .ok none ∨ list.Field "pages-count" 4 0)

def region (list : PropertyList) (pageSize : UInt64) : Except BootFailure AddressRange :=
  match list.sized "base-address" 8 with
  | .error failure => .error failure
  | .ok none => .error .heapRegionMissing
  | .ok (some base) =>
      match list.sized "pages-count" 4 with
      | .error failure => .error failure
      | .ok none => .error .heapRegionMissing
      | .ok (some pages) =>
          if pages = 0 then .error .heapRegionMissing
          else if pages * pageSize.toNat < UInt64.size then
            .ok ⟨UInt64.ofNat base, UInt64.ofNat (pages * pageSize.toNat)⟩
          else .error (.manifestMalformed .outOfBounds)

theorem Provides.region (provides : list.Provides pageSize range) :
    list.region pageSize = .ok range := by
  obtain ⟨base, pages, based, counted, some, fits, start, extent⟩ := provides
  simp only [PropertyList.region, sized_some_iff.mpr based, sized_some_iff.mpr counted, if_neg some,
    if_pos fits]
  cases range
  rw [Except.ok.injEq, AddressRange.mk.injEq, ← UInt64.toNat_inj, ← UInt64.toNat_inj]
  exact ⟨(UInt64.toNat_ofNat_of_lt' based.lt).trans start.symm,
    (UInt64.toNat_ofNat_of_lt' fits).trans extent.symm⟩

theorem LacksRegion.region (lacks : list.LacksRegion) :
    list.region pageSize = .error .heapRegionMissing := by
  obtain absent | ⟨base, based, absent | zero⟩ := lacks
  · simp only [PropertyList.region, sized_none_iff.mpr absent]
  · simp only [PropertyList.region, sized_some_iff.mpr based, sized_none_iff.mpr absent]
  · simp only [PropertyList.region, sized_some_iff.mpr based, sized_some_iff.mpr zero, if_true]

theorem skips_or_matches (list : PropertyList) (name : List UInt8) :
    list.Skips name ∨ list.Matches name ∨
      ∃ failure, list.lookup "description" = .error failure := by
  cases looked : list.lookup "description" with
  | error failure => exact .inr (.inr ⟨failure, rfl⟩)
  | ok description =>
      cases description with
      | none => exact .inl ⟨none, looked, fun text impossible => by cases impossible⟩
      | some text =>
          by_cases agrees : text <+: name ∨ name <+: text
          · exact .inr (.inl ⟨text, looked, agrees⟩)
          · refine .inl ⟨some text, looked, fun same told => ?_⟩
            cases told
            exact agrees

end PropertyList

variable {list : PropertyList}

theorem name_opened {title : Window} (named : (tree.name node).result = .ok title) :
    ∃ body, tree.Reads node.offset (.beginNode title) body := by
  obtain ⟨located, found, told⟩ := Report.bind_ok_iff.mp named
  split at told
  · rename_i same
    cases told
    exact ⟨_, same ▸ reads_of_token found⟩
  · cases told

theorem Subtrees.opened {start stop : Nat} {children : List Node}
    (subtrees : tree.Subtrees start children stop) :
    ∀ child ∈ children, ∃ title body, tree.Reads child.offset (.beginNode title) body := by
  induction subtrees with
  | none start =>
      intro child member
      cases member
  | node opens whole rest ih =>
      intro other member
      obtain rfl | member := List.mem_cons.mp member
      · exact opens.opened
      · exact ih other member

theorem Encloses.all_opened {children : List Node} {further : Option Node}
    (encloses : tree.Encloses node children further) :
    ∀ child ∈ children, ∃ title body, tree.Reads child.offset (.beginNode title) body := by
  obtain ⟨_, _, _, _, _, _, subtrees, _⟩ := encloses
  exact subtrees.opened

theorem Holds.region_cases (holds : tree.Holds node list) (pageSize : UInt64) :
    (∃ range, list.Provides pageSize range) ∨ list.LacksRegion ∨
      ∃ fault, list.region pageSize = .error (.manifestMalformed fault) := by
  cases based : list.sized "base-address" 8 with
  | error failure =>
      obtain ⟨fault, rfl⟩ := holds.broken_malformed (PropertyList.sized_error_iff.mp based)
      exact .inr (.inr ⟨fault, by simp only [PropertyList.region, based]⟩)
  | ok base =>
      cases base with
      | none => exact .inr (.inl (.inl (PropertyList.sized_none_iff.mp based)))
      | some base =>
          have first := PropertyList.sized_some_iff.mp based
          cases counted : list.sized "pages-count" 4 with
          | error failure =>
              obtain ⟨fault, rfl⟩ :=
                holds.broken_malformed (PropertyList.sized_error_iff.mp counted)
              exact .inr (.inr ⟨fault, by simp only [PropertyList.region, based, counted]⟩)
          | ok pages =>
              cases pages with
              | none =>
                  exact .inr (.inl (.inr ⟨base, first,
                    .inl (PropertyList.sized_none_iff.mp counted)⟩))
              | some pages =>
                  have second := PropertyList.sized_some_iff.mp counted
                  by_cases zero : pages = 0
                  · subst zero
                    exact .inr (.inl (.inr ⟨base, first, .inr second⟩))
                  · by_cases fits : pages * pageSize.toNat < UInt64.size
                    · exact .inl ⟨⟨UInt64.ofNat base, UInt64.ofNat (pages * pageSize.toNat)⟩,
                        base, pages, first, second, zero, fits,
                        UInt64.toNat_ofNat_of_lt' first.lt, UInt64.toNat_ofNat_of_lt' fits⟩
                    · refine .inr (.inr ⟨.outOfBounds, ?_⟩)
                      simp only [PropertyList.region, based, counted, if_neg zero, if_neg fits]

end DeviceTree

namespace Manifest

open DeviceTree

variable {manifest : Manifest} {regions child : Node} {list : PropertyList} {name : List UInt8}
  {pageSize : UInt64} {range : AddressRange} {failure : BootFailure}

theorem region?_skipped (holds : manifest.tree.Holds child list) (skips : list.Skips name)
    (pageSize : UInt64) : (manifest.region? name pageSize child).result = .ok none := by
  obtain ⟨description, looked, differs⟩ := skips
  obtain ⟨value, found, rfl⟩ := holds.property_ok looked
  simp only [region?, Report.result_bind, found, Except.bind]
  cases value with
  | none => rfl
  | some text =>
      have unlike : agree text.bytes name = false :=
        Bool.eq_false_iff.mpr fun same => differs text.bytes rfl (agree_iff.mp same)
      simp only [unlike, Bool.not_false, if_true, Report.result_pure]

theorem region?_unread (holds : manifest.tree.Holds child list)
    (failed : list.lookup "description" = .error failure) (pageSize : UInt64) :
    (manifest.region? name pageSize child).result = .error failure := by
  simp only [region?, Report.result_bind, holds.property_error failed, Except.bind]

theorem region?_matched (holds : manifest.tree.Holds child list) (matched : list.Matches name)
    (pageSize : UInt64) : (manifest.region? name pageSize child).result =
      (list.region pageSize).map some := by
  obtain ⟨description, looked, agrees⟩ := matched
  obtain ⟨value, found, same⟩ := holds.property_ok looked
  obtain ⟨text, rfl, rfl⟩ := Option.map_eq_some_iff.mp same
  have counted := holds.property32 "pages-count"
  simp only [region?, Report.result_bind, found, Except.bind, agree_iff.mpr agrees,
    Bool.not_true, Bool.false_eq_true, if_false, holds.property64, PropertyList.region]
  cases list.sized "base-address" 8 with
  | error failure => rfl
  | ok base =>
      cases base with
      | none => rfl
      | some base =>
          simp only [Except.map, Option.map_some, Report.result_bind, Except.bind, counted]
          cases read : list.sized "pages-count" 4 with
          | error failure => rfl
          | ok pages =>
              cases pages with
              | none => rfl
              | some pages =>
                  have small := (PropertyList.sized_some_iff.mp read).lt
                  have kept : (UInt32.ofNat pages).toNat = pages :=
                    UInt32.toNat_ofNat_of_lt' small
                  have zero_iff : UInt32.ofNat pages = 0 ↔ pages = 0 := by
                    rw [← UInt32.toNat_inj, kept]
                    rfl
                  have extent : (UInt32.ofNat pages).toUInt64 * pageSize =
                      UInt64.ofNat (pages * pageSize.toNat) := by
                    rw [← UInt64.toNat_inj, UInt64.toNat_mul, UInt32.toNat_toUInt64, kept,
                      UInt64.toNat_ofNat']
                  simp only [Option.map_some, Report.result_bind, Report.result_note, Except.bind,
                    zero_iff, kept, extent]
                  split
                  · rfl
                  · split
                    · rfl
                    · rfl

/-- The manifest node is found, and this is its region list. -/
def ListsRegions (manifest : Manifest) (regions : Node) : Prop :=
  ∃ node, manifest.found = .ok (some node) ∧
    (manifest.tree.subnode node manifest.config.regionsNode).result = .ok (some regions)

def SkipsAll (manifest : Manifest) (name : List UInt8) (entries : List Node) : Prop :=
  ∀ entry ∈ entries, ∃ list, manifest.tree.Holds entry list ∧ list.Skips name

/-- The first entry of a region list, in document order, that agrees with the name. -/
def Picks (manifest : Manifest) (regions : Node) (name : List UInt8) (entry : Node)
    (list : PropertyList) : Prop :=
  ∃ before, manifest.tree.Encloses regions before (some entry) ∧ manifest.SkipsAll name before ∧
    manifest.tree.Holds entry list ∧ list.Matches name

def NoneMatches (manifest : Manifest) (regions : Node) (name : List UInt8) : Prop :=
  ∃ entries, manifest.tree.Encloses regions entries none ∧ manifest.SkipsAll name entries

/-- No entry of the region list agrees with the name, or the first one that does has no region. -/
def LacksRegion (manifest : Manifest) (regions : Node) (name : List UInt8) : Prop :=
  manifest.NoneMatches regions name ∨
    ∃ entry list, manifest.Picks regions name entry list ∧ list.LacksRegion

def ProvidesRegion (manifest : Manifest) (regions : Node) (name : List UInt8) (pageSize : UInt64)
    (range : AddressRange) : Prop :=
  ∃ entry list, manifest.Picks regions name entry list ∧ list.Provides pageSize range

/-- The region is neither absent from the region list nor described there: a fault is met in front
of it, or a number in it has a wrong width or does not fit. -/
def MalformsRegion (manifest : Manifest) (regions : Node) (name : List UInt8)
    (pageSize : UInt64) : Prop :=
  ¬ manifest.LacksRegion regions name ∧
    ∀ range, ¬ manifest.ProvidesRegion regions name pageSize range

theorem ListsRegions.opened (lists : manifest.ListsRegions regions) :
    ∃ title body, manifest.tree.Reads regions.offset (.beginNode title) body := by
  obtain ⟨node, _, found⟩ := lists
  obtain ⟨entry, visited⟩ := DeviceTree.searchChildren_ok found
  obtain ⟨title, named, chosen⟩ := Report.bind_ok_iff.mp visited
  simp only [Report.result_pure, Except.ok.injEq] at chosen
  split at chosen
  · cases chosen
    exact ⟨title, name_opened named⟩
  · cases chosen

theorem findRegion_result (lists : manifest.ListsRegions regions) (name : List UInt8)
    (pageSize : UInt64) :
    (manifest.findRegion name pageSize).result =
      match (manifest.tree.searchChildren regions (manifest.region? name pageSize)).result with
      | .error failure => .error failure
      | .ok (some range) => .ok range
      | .ok none => .error .heapRegionMissing := by
  obtain ⟨node, found, listed⟩ := lists
  simp only [findRegion, Report.result_bind, node_found found, Except.bind, listed]
  cases (manifest.tree.searchChildren regions (manifest.region? name pageSize)).result with
  | error failure => rfl
  | ok answer => cases answer <;> rfl

theorem SkipsAll.passes {entries : List Node} (skips : manifest.SkipsAll name entries)
    (pageSize : UInt64) : Passes (manifest.region? name pageSize) entries := by
  intro entry member
  obtain ⟨list, holds, skipped⟩ := skips entry member
  exact region?_skipped holds skipped pageSize

theorem skipsAll_of_passes {entries : List Node}
    (opened : ∀ entry ∈ entries, ∃ title body,
      manifest.tree.Reads entry.offset (.beginNode title) body)
    (passes : Passes (manifest.region? name pageSize) entries) :
    manifest.SkipsAll name entries := by
  intro entry member
  obtain ⟨title, body, here⟩ := opened entry member
  obtain ⟨list, holds⟩ := exists_holds here
  have passed := passes entry member
  refine ⟨list, holds, ?_⟩
  obtain skips | matched | ⟨failure, failed⟩ := list.skips_or_matches name
  · exact skips
  · rw [region?_matched holds matched] at passed
    cases told : list.region pageSize <;> rw [told] at passed <;> cases passed
  · rw [region?_unread holds failed] at passed
    cases passed

theorem Picks.decides (picks : manifest.Picks regions name child list) (pageSize : UInt64) :
    (manifest.region? name pageSize child).result = (list.region pageSize).map some ∧
      ∃ before, manifest.tree.Decides regions (manifest.region? name pageSize) before child := by
  obtain ⟨before, encloses, skips, holds, matched⟩ := picks
  have visited := region?_matched holds matched pageSize
  refine ⟨visited, before, encloses, skips.passes pageSize, ?_⟩
  rw [visited]
  cases list.region pageSize <;> exact fun impossible => by cases impossible

theorem Picks.result (lists : manifest.ListsRegions regions)
    (picks : manifest.Picks regions name child list) (pageSize : UInt64) :
    (manifest.findRegion name pageSize).result = list.region pageSize := by
  obtain ⟨visited, before, decided⟩ := picks.decides pageSize
  rw [findRegion_result lists, decided.search, visited]
  cases list.region pageSize <;> rfl

theorem Picks.unique {also : Node} {otherList : PropertyList}
    (picks : manifest.Picks regions name child list)
    (again : manifest.Picks regions name also otherList) : child = also := by
  obtain ⟨_, _, decided⟩ := picks.decides 0
  obtain ⟨_, _, other⟩ := again.decides 0
  exact (decided.unique other).2

theorem Picks.cases (picks : manifest.Picks regions name child list) (pageSize : UInt64) :
    (∃ range, list.Provides pageSize range) ∨ list.LacksRegion ∨
      ∃ fault, list.region pageSize = .error (.manifestMalformed fault) := by
  obtain ⟨_, _, _, holds, _⟩ := picks
  exact holds.region_cases pageSize

theorem NoneMatches.result (lists : manifest.ListsRegions regions)
    (unmatched : manifest.NoneMatches regions name) (pageSize : UInt64) :
    (manifest.findRegion name pageSize).result = .error .heapRegionMissing := by
  obtain ⟨entries, encloses, skips⟩ := unmatched
  rw [findRegion_result lists, search_ended encloses (skips.passes pageSize)]

theorem findRegion_cases (lists : manifest.ListsRegions regions) (name : List UInt8)
    (pageSize : UInt64) :
    (∃ entry list, manifest.Picks regions name entry list) ∨
      manifest.NoneMatches regions name ∨
      ∃ failure, Structural failure ∧
        (manifest.findRegion name pageSize).result = .error failure := by
  obtain ⟨title, body, opened⟩ := lists.opened
  obtain ⟨before, entry, decided⟩ | ⟨entries, encloses, passes⟩ | ⟨failure, structural, failed⟩ :=
    search_cases opened (manifest.region? name pageSize)
  · obtain ⟨_, _, here⟩ := decided.encloses.child_opened
    obtain ⟨list, holds⟩ := exists_holds here
    have skips := skipsAll_of_passes decided.encloses.all_opened decided.passes
    obtain skipped | matched | ⟨failure, failed⟩ := list.skips_or_matches name
    · exact absurd (region?_skipped holds skipped pageSize) decided.decides
    · exact .inl ⟨entry, list, before, decided.encloses, skips, holds, matched⟩
    · refine .inr (.inr ⟨failure, holds.structural failed, ?_⟩)
      rw [findRegion_result lists, decided.search, region?_unread holds failed]
  · exact .inr (.inl ⟨entries, encloses, skipsAll_of_passes encloses.all_opened passes⟩)
  · refine .inr (.inr ⟨failure, structural, ?_⟩)
    rw [findRegion_result lists, failed]

/-- The search gives the region that the list provides, reports that the list lacks it, or reports
a malformed manifest. -/
theorem findRegion_outcome (lists : manifest.ListsRegions regions) (name : List UInt8)
    (pageSize : UInt64) :
    (∃ range, manifest.ProvidesRegion regions name pageSize range ∧
        (manifest.findRegion name pageSize).result = .ok range) ∨
      (manifest.LacksRegion regions name ∧
        (manifest.findRegion name pageSize).result = .error .heapRegionMissing) ∨
      ∃ fault, (manifest.findRegion name pageSize).result = .error (.manifestMalformed fault) := by
  obtain ⟨entry, list, picks⟩ | unmatched | ⟨failure, structural, failed⟩ :=
    findRegion_cases lists name pageSize
  · have result := picks.result lists pageSize
    obtain ⟨range, provides⟩ | lacks | ⟨fault, malformed⟩ := picks.cases pageSize
    · exact .inl ⟨range, ⟨entry, list, picks, provides⟩, result.trans provides.region⟩
    · exact .inr (.inl ⟨.inr ⟨entry, list, picks, lacks⟩, result.trans lacks.region⟩)
    · exact .inr (.inr ⟨fault, result.trans malformed⟩)
  · exact .inr (.inl ⟨.inl unmatched, unmatched.result lists pageSize⟩)
  · obtain ⟨fault, rfl⟩ := structural.malformedManifest
    exact .inr (.inr ⟨fault, failed⟩)

theorem findRegion_ok_iff (lists : manifest.ListsRegions regions) :
    (manifest.findRegion name pageSize).result = .ok range ↔
      manifest.ProvidesRegion regions name pageSize range := by
  constructor
  · intro found
    obtain ⟨same, provides, told⟩ | ⟨_, told⟩ | ⟨_, told⟩ :=
      findRegion_outcome lists name pageSize
    · cases told.symm.trans found
      exact provides
    · cases told.symm.trans found
    · cases told.symm.trans found
  · rintro ⟨entry, list, picks, provides⟩
    exact (picks.result lists pageSize).trans provides.region

theorem findRegion_missing_iff (lists : manifest.ListsRegions regions) :
    (manifest.findRegion name pageSize).result = .error .heapRegionMissing ↔
      manifest.LacksRegion regions name := by
  constructor
  · intro missing
    obtain ⟨_, _, told⟩ | ⟨lacks, _⟩ | ⟨_, told⟩ := findRegion_outcome lists name pageSize
    · cases told.symm.trans missing
    · exact lacks
    · cases told.symm.trans missing
  · rintro (unmatched | ⟨entry, list, picks, lacks⟩)
    · exact unmatched.result lists pageSize
    · exact (picks.result lists pageSize).trans lacks.region

theorem findRegion_error (lists : manifest.ListsRegions regions)
    (failed : (manifest.findRegion name pageSize).result = .error failure) :
    failure = .heapRegionMissing ∨ ∃ fault, failure = .manifestMalformed fault := by
  obtain ⟨_, _, told⟩ | ⟨_, told⟩ | ⟨fault, told⟩ := findRegion_outcome lists name pageSize
  · cases told.symm.trans failed
  · cases told.symm.trans failed
    exact .inl rfl
  · cases told.symm.trans failed
    exact .inr ⟨fault, rfl⟩

theorem malformsRegion_iff (lists : manifest.ListsRegions regions) :
    manifest.MalformsRegion regions name pageSize ↔ ∃ fault,
      (manifest.findRegion name pageSize).result = .error (.manifestMalformed fault) := by
  constructor
  · rintro ⟨present, undescribed⟩
    obtain ⟨range, provides, _⟩ | ⟨lacks, _⟩ | malformed := findRegion_outcome lists name pageSize
    · exact absurd provides (undescribed range)
    · exact absurd lacks present
    · exact malformed
  · rintro ⟨fault, malformed⟩
    refine ⟨fun lacks => ?_, fun range provides => ?_⟩
    · cases malformed.symm.trans ((findRegion_missing_iff lists).mpr lacks)
    · cases malformed.symm.trans ((findRegion_ok_iff lists).mpr provides)

theorem findRegion_of_node_error (failed : manifest.node.result = .error failure) :
    (manifest.findRegion name pageSize).result = .error failure := by
  simp only [findRegion, Report.result_bind, failed, Except.bind]

/-- Nothing that goes wrong in front of a region list is reported as a missing region. -/
theorem listsRegions_of_missing
    (missing : (manifest.findRegion name pageSize).result = .error .heapRegionMissing) :
    ∃ regions, manifest.ListsRegions regions := by
  cases found : manifest.found with
  | error failure =>
      obtain ⟨fault, _, failed⟩ := node_unreadable found
      cases missing.symm.trans (findRegion_of_node_error failed)
  | ok answer =>
      cases answer with
      | none => cases missing.symm.trans (findRegion_of_node_error (node_missing found))
      | some node =>
          obtain ⟨_, title, body, opened⟩ := findCompatible_found found
          simp only [findRegion, Report.result_bind, node_found found, Except.bind] at missing
          cases listed : (manifest.tree.subnode node manifest.config.regionsNode).result with
          | error failure =>
              rw [listed] at missing
              cases missing
              obtain ⟨fault, impossible⟩ :=
                (subnode_failsOnly opened _ _ listed).malformedManifest
              cases impossible
          | ok answer =>
              cases answer with
              | none =>
                  rw [listed] at missing
                  cases missing
              | some regions => exact ⟨regions, node, found, listed⟩

/-- The first entry of the region list that agrees with the name decides, by its base address and
its number of pages alone; a region is missing where that entry has none or the list ends without
one, and everything else that goes wrong is a malformed manifest. -/
theorem region_of_any_bytes (lists : manifest.ListsRegions regions) (name : List UInt8)
    (pageSize : UInt64) :
    (∀ range, (manifest.findRegion name pageSize).result = .ok range ↔
        ∃ entry list, manifest.Picks regions name entry list ∧ list.Provides pageSize range) ∧
      ((manifest.findRegion name pageSize).result = .error .heapRegionMissing ↔
        manifest.NoneMatches regions name ∨
          ∃ entry list, manifest.Picks regions name entry list ∧ list.LacksRegion) ∧
      (∀ failure, (manifest.findRegion name pageSize).result = .error failure →
        failure = .heapRegionMissing ∨ ∃ fault, failure = .manifestMalformed fault) ∧
      (∀ entry list also otherList, manifest.Picks regions name entry list →
        manifest.Picks regions name also otherList → entry = also) ∧
      ∀ (other : Manifest) otherRegions entry list also otherList,
        other.ListsRegions otherRegions → manifest.Picks regions name entry list →
          other.Picks otherRegions name also otherList →
          list.lookup "base-address" = otherList.lookup "base-address" →
          list.lookup "pages-count" = otherList.lookup "pages-count" →
          (other.findRegion name pageSize).result = (manifest.findRegion name pageSize).result := by
  refine ⟨fun range => findRegion_ok_iff lists, findRegion_missing_iff lists,
    fun failure => findRegion_error lists, ?_, ?_⟩
  · intro entry list also otherList picks again
    exact picks.unique again
  · intro other otherRegions entry list also otherList otherLists picks again base pages
    rw [picks.result lists, again.result otherLists]
    simp only [PropertyList.region, PropertyList.sized, base, pages]

def heapName : List UInt8 := nameBytes "heap"

def flatRegions (rest : List UInt8) : Manifest where
  tree := {
    tokens := Window.ofBytes ((Opening.mk [] [⟨nameBytes "compatible",
      nameBytes "arm,ffa-manifest-1.0" ++ [0], 0, 0, [0, 0, 0]⟩] 0 [0, 0, 0]).bytes ++
        (Opening.mk (nameBytes "memory-regions") [] 0 [0]).bytes ++ rest)
    names := Window.ofBytes (["compatible", "description", "base-address", "pages-count"].flatMap
      fun name => nameBytes name ++ [0]) }
  config := {}

def heapEntry (base : List UInt8) (others : List FlatProperty) : Opening where
  name := heapName
  properties := ⟨nameBytes "description", heapName ++ [0], 0, 11, [0, 0, 0]⟩ ::
    ⟨nameBytes "base-address", base, 0, 23, []⟩ :: others
  gap := 0
  padding := [0, 0, 0]

/-- Two pages, with bytes behind the region that are no tokens. -/
def twoPages : Manifest :=
  flatRegions ((heapEntry (bigEndian 8 0x80000000)
    [⟨nameBytes "pages-count", bigEndian 4 2, 0, 36, []⟩]).bytes ++ [0, 0, 0, 7])

theorem two_pages_found : twoPages.ListsRegions ⟨44⟩ ∧
    (∃ entry list, twoPages.Picks ⟨44⟩ heapName entry list ∧
      list.Provides 0x1000 ⟨0x80000000, 0x2000⟩) ∧
    (twoPages.findRegion heapName 0x1000).result = .ok ⟨0x80000000, 0x2000⟩ := by
  have lists : twoPages.ListsRegions ⟨44⟩ := by
    refine ⟨⟨0⟩, eq_of_toOption ?_ ?_, eq_of_toOption ?_ ?_⟩ <;> decide +kernel
  have found : (twoPages.findRegion heapName 0x1000).result = .ok ⟨0x80000000, 0x2000⟩ :=
    eq_of_toOption (by decide +kernel) (by decide +kernel)
  exact ⟨lists, ((region_of_any_bytes lists heapName 0x1000).1 _).mp found, found⟩

def narrowBase : Manifest :=
  flatRegions ((heapEntry (bigEndian 4 0x80000000) []).bytes ++ closing 0 ++ closing 0 ++
    closing 0 ++ tagBytes Tag.finish)

theorem narrow_base_lists : narrowBase.ListsRegions ⟨44⟩ := by
  refine ⟨⟨0⟩, eq_of_toOption ?_ ?_, eq_of_toOption ?_ ?_⟩ <;> decide +kernel

theorem narrow_base_picked : ∃ list, narrowBase.Picks ⟨44⟩ heapName ⟨64⟩ list ∧
    list.lookup "base-address" = .ok (some (bigEndian 4 0x80000000)) ∧
      list.lookup "pages-count" = .ok none := by
  have row : (narrowBase.tree.children ⟨44⟩ : Report Unit _).result = .ok ([⟨64⟩], none) :=
    eq_of_toOption (by decide +kernel) (by decide +kernel)
  obtain ⟨title, body, opened⟩ := narrow_base_lists.opened
  obtain ⟨found, cut, drained, drains⟩ := narrowBase.tree.children_drains Unit ⟨44⟩
  rw [row] at drained
  cases drained
  have encloses : narrowBase.tree.Encloses ⟨44⟩ [] (some ⟨64⟩) :=
    (drains.encloses_iff opened [] (some ⟨64⟩)).mpr (List.prefix_refl _)
  obtain ⟨_, _, here⟩ := encloses.child_opened
  obtain ⟨list, holds⟩ := exists_holds here
  have described : list.lookup "description" = .ok (some (heapName ++ [0])) := by
    rw [← holds.property]
    exact eq_of_toOption (by decide +kernel) (by decide +kernel)
  have based : list.lookup "base-address" = .ok (some (bigEndian 4 0x80000000)) := by
    rw [← holds.property]
    exact eq_of_toOption (by decide +kernel) (by decide +kernel)
  have uncounted : list.lookup "pages-count" = .ok none := by
    rw [← holds.property]
    exact eq_of_toOption (by decide +kernel) (by decide +kernel)
  have skips : narrowBase.SkipsAll heapName [] := fun _ member => nomatch member
  exact ⟨list, ⟨[], encloses, skips, holds, heapName ++ [0], described,
    .inr (List.prefix_append _ _)⟩, based, uncounted⟩

/-- The base address is read before the number of pages, so one of a wrong width is reported even
where no number of pages stands behind it. -/
theorem narrow_base_malformed :
    narrowBase.ListsRegions ⟨44⟩ ∧
      (narrowBase.findRegion heapName 0x1000).result =
        .error (.manifestMalformed (.propertyWidth "base-address" 8 4)) ∧
      ¬ ((narrowBase.findRegion heapName 0x1000).result = .error .heapRegionMissing ↔
        narrowBase.NoneMatches ⟨44⟩ heapName ∨
          ∃ entry list, narrowBase.Picks ⟨44⟩ heapName entry list ∧
            (list.lookup "base-address" = .ok none ∨ list.lookup "pages-count" = .ok none ∨
              list.Field "pages-count" 4 0)) := by
  obtain ⟨list, picks, based, uncounted⟩ := narrow_base_picked
  have malformed : (narrowBase.findRegion heapName 0x1000).result =
      .error (.manifestMalformed (.propertyWidth "base-address" 8 4)) := by
    rw [picks.result narrow_base_lists]
    simp only [PropertyList.region, PropertyList.sized, based, length_bigEndian]
    rfl
  refine ⟨narrow_base_lists, malformed, ?_⟩
  intro claimed
  have missing := claimed.mpr (.inr ⟨⟨64⟩, list, picks, .inr (.inl uncounted)⟩)
  rw [malformed] at missing
  cases missing

end Manifest

end PartitionBoot
