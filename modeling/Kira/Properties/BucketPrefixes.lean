import Kira.Domain.RoutingTable.FlatInvariant
import Kira.UseCases.DeriveFwdTableEntries

/-!
# The fixed prefix of a bucket

The entry that is installed for a bucket covers the ids that share a number of leading bits with one
of its contacts: all digits up to the one that decides on the bucket.  On the levels that is right,
the ids of a bucket are those with the same digits (`fixedPrefix_of_level`).  But the last bucket is
not on a level.  Its ids only share the digits of all the levels, while the computed length has one
digit more, so that an entry for the last bucket covers one of the buckets into which it would be
split.  Where the levels leave a single bit, that digit may even lie beyond the end of an id, and
the entry cannot be derived at all (`not_fixedPrefix_beyond`).
-/

set_option autoImplicit false

namespace Kira

open Run XorMetric

open DeriveFwdTableEntries (prefixSubnet deriveBucketPrefixEntry closestOf)

/-- An id lies in a subnet with a prefix: its leading bits are those of the subnet. -/
def NodeIdSubnet.Covers (self : NodeIdSubnet) (x : NodeId) : Prop :=
  x.topBits self.prefixLength = self.nodeId

theorem NodeId.topBits_eq_iff (m : Nat) (x y : NodeId) :
    x.topBits m = y.topBits m ↔ top m x = top m y := by
  have hpos := Nat.two_pow_pos (NodeId.BITS - m)
  have hlt (z : NodeId) :
      z.toNat / 2 ^ (NodeId.BITS - m) * 2 ^ (NodeId.BITS - m) < 2 ^ NodeId.BITS :=
    Nat.lt_of_le_of_lt (Nat.div_mul_le_self _ _) z.isLt
  rw [topBits, topBits, ← BitVec.toNat_inj, BitVec.toNat_ofNat, BitVec.toNat_ofNat,
    Nat.mod_eq_of_lt (hlt x), Nat.mod_eq_of_lt (hlt y), Nat.mul_left_inj hpos.ne', top, top,
    Nat.shiftRight_eq_div_pow, Nat.shiftRight_eq_div_pow]

/-- A subnet is made of every prefix that fits an id. -/
theorem DeriveFwdTableEntries.prefixSubnet_of_le {m : Nat} (hm : m ≤ NodeId.BITS) (x : NodeId) :
    prefixSubnet x m = .ok ⟨x.topBits m, m⟩ := by
  rw [prefixSubnet, assert_of (decide_eq_true hm), ok_bind, NodeIdSubnet.tryNew, if_pos hm,
    expect_some]

namespace FlatRoutingTable

variable {k acc : Nat} {t : FlatRoutingTable k acc}

/-- The ids of a bucket are those that share a prefix of the bucket's length with one of them, and
the subnet derived from any of them covers exactly these.  The root itself does not count. -/
structure FixedPrefix (t : FlatRoutingTable k acc) (i : Nat) : Prop where
  agree {x y : NodeId} : x ≠ t.root → y ≠ t.root → t.getBucketIndex x = i →
    t.getBucketIndex y = i → top (t.getBucketPrefixLength i) x = top (t.getBucketPrefixLength i) y
  covered {x y : NodeId} : x ≠ t.root → t.getBucketIndex x = i →
    top (t.getBucketPrefixLength i) x = top (t.getBucketPrefixLength i) y → t.getBucketIndex y = i
  subnet {x : NodeId} : x ≠ t.root → t.getBucketIndex x = i →
    ∃ subnet, prefixSubnet x (t.getBucketPrefixLength i) = .ok subnet ∧
      ∀ y, y ≠ t.root → (subnet.Covers y ↔ t.getBucketIndex y = i)

/-- The subnet is right once the ids are those of the prefix and the prefix fits an id. -/
theorem FixedPrefix.of_fits {i : Nat}
    (agree : ∀ {x y : NodeId}, x ≠ t.root → y ≠ t.root → t.getBucketIndex x = i →
      t.getBucketIndex y = i →
        top (t.getBucketPrefixLength i) x = top (t.getBucketPrefixLength i) y)
    (covered : ∀ {x y : NodeId}, x ≠ t.root → t.getBucketIndex x = i →
      top (t.getBucketPrefixLength i) x = top (t.getBucketPrefixLength i) y →
      t.getBucketIndex y = i)
    (fits : ∀ x, x ≠ t.root → t.getBucketIndex x = i → t.getBucketPrefixLength i ≤ NodeId.BITS) :
    t.FixedPrefix i where
  agree := agree
  covered := covered
  subnet {x} hx hxi := by
    refine ⟨_, DeriveFwdTableEntries.prefixSubnet_of_le (fits x hx hxi) x, fun y hy ↦ ?_⟩
    rw [NodeIdSubnet.Covers, NodeId.topBits_eq_iff]
    exact ⟨fun h ↦ covered hx hxi h.symm, fun hyi ↦ agree hy hx hyi hxi⟩

theorem digits_eq_iff (m : Nat) (x y : NodeId) :
    t.digits m x = t.digits m y ↔ top (m * acc) x = top (m * acc) y := by
  rw [digits, digits, top_xor, top_xor]
  exact Nat.xor_right_inj

theorem getBucketPrefixLength_of_level {l off : Nat} (hoff : off < levelWidth acc) :
    t.getBucketPrefixLength (l * levelWidth acc + off) = (l + 1) * acc := by
  have hw := levelWidth_pos t.acc_pos
  rw [getBucketPrefixLength, Nat.mul_comm l, Nat.mul_add_div hw, Nat.div_eq_of_lt hoff,
    Nat.add_zero, Nat.succ_mul, Nat.mul_comm, Nat.add_comm]

/-- **A bucket on a level has a fixed prefix.** -/
theorem fixedPrefix_of_level {l off : Nat} (hl : l < t.levels) (hoff : off < levelWidth acc) :
    t.FixedPrefix (l * levelWidth acc + off) := by
  refine .of_fits (fun {x y} _ _ hx hy ↦ ?_) (fun {x y} _ hx hxy ↦ ?_) fun _ _ _ ↦ ?_
  · rw [getBucketPrefixLength_of_level hoff, ← digits_eq_iff]
    rw [getBucketIndex_eq_iff t hl hoff] at hx hy
    rw [hx, hy]
  · rw [getBucketPrefixLength_of_level hoff, ← digits_eq_iff] at hxy
    rw [getBucketIndex_eq_iff t hl hoff] at hx ⊢
    rw [← hxy, hx]
  · rw [getBucketPrefixLength_of_level hoff]
    exact t.levels_mul_le hl

theorem getBucketPrefixLength_last :
    t.getBucketPrefixLength (t.levels * levelWidth acc) = t.levels * acc + acc := by
  rw [getBucketPrefixLength, Nat.mul_div_cancel _ (levelWidth_pos t.acc_pos), Nat.mul_comm,
    Nat.add_comm]

/-- The last bucket holds at most one id if the levels leave at most one bit. -/
theorem dist_of_last (hbits : NodeId.BITS ≤ t.levels * acc + 1) {x : NodeId} (hx : x ≠ t.root)
    (hxi : t.getBucketIndex x = t.levels * levelWidth acc) :
    dist t.root x = 1 ∧ t.levels * acc < NodeId.BITS := by
  rw [getBucketIndex_eq_last_iff, digits_eq_div, Nat.div_eq_zero_iff_lt (Nat.two_pow_pos _)] at hxi
  have hne : dist t.root x ≠ 0 := fun h0 ↦
    hx (dist_inj (t := t.root) (by rw [h0]; simp [XorMetric.dist]))
  have hlt : dist t.root x < 2 ^ 1 :=
    lt_of_lt_of_le hxi (Nat.pow_le_pow_right (by decide) (by omega))
  refine ⟨by omega, Nat.not_le.1 fun hle ↦ hne ?_⟩
  rw [Nat.sub_eq_zero_of_le hle] at hxi
  exact Nat.lt_one_iff.1 hxi

theorem fixedPrefix_of_single (hbits : NodeId.BITS ≤ t.levels * acc + 1)
    (hfits : NodeId.BITS ≤ t.levels * acc ∨ acc = 1) :
    t.FixedPrefix (t.levels * levelWidth acc) := by
  refine .of_fits (fun {x y} hx hy hxi hyi ↦ ?_) (fun {x y} hx hxi hxy ↦ ?_) fun x hx hxi ↦ ?_
  · rw [dist_inj ((dist_of_last hbits hx hxi).1.trans (dist_of_last hbits hy hyi).1.symm)]
  · have hacc := t.acc_pos
    have hall : NodeId.BITS - (t.levels * acc + acc) = 0 := by omega
    rw [getBucketPrefixLength_last, top, top, hall] at hxy
    rw [← BitVec.eq_of_toNat_eq hxy, hxi]
  · have hlt := (dist_of_last hbits hx hxi).2
    rw [getBucketPrefixLength_last]
    omega

theorem top_eq_of_le {m n : Nat} (hmn : m ≤ n) {x y : NodeId} (h : top n x = top n y) :
    top m x = top m y := by
  have hsplit : NodeId.BITS - m = (NodeId.BITS - n) + ((NodeId.BITS - m) - (NodeId.BITS - n)) := by
    omega
  rw [top] at h ⊢
  rw [top] at h ⊢
  rw [hsplit, Nat.shiftRight_add, Nat.shiftRight_add, h]

/-- The id that differs from the root in one bit. -/
def flip (t : FlatRoutingTable k acc) (m : Nat) : NodeId :=
  t.root ^^^ .twoPow NodeId.BITS (NodeId.BITS - 1 - m)

theorem root_xor_flip {m : Nat} (hlt : m < NodeId.BITS) :
    (t.root ^^^ t.flip m).toNat = 2 ^ (NodeId.BITS - 1 - m) := by
  rw [flip, ← BitVec.xor_assoc, BitVec.xor_self, BitVec.zero_xor, BitVec.toNat_twoPow]
  exact Nat.mod_eq_of_lt (Nat.pow_lt_pow_right (by decide) (by omega))

theorem flip_ne_root {m : Nat} (hlt : m < NodeId.BITS) : t.flip m ≠ t.root := by
  intro h
  have hxor := root_xor_flip (t := t) hlt
  rw [h, BitVec.xor_self, BitVec.toNat_zero] at hxor
  exact (Nat.two_pow_pos _).ne hxor

theorem getBucketIndex_flip {m : Nat} (hm : t.levels * acc ≤ m) (hlt : m < NodeId.BITS) :
    t.getBucketIndex (t.flip m) = t.levels * levelWidth acc := by
  rw [getBucketIndex_eq_last_iff, digits_eq_div, root_xor_flip hlt,
    Nat.div_eq_zero_iff_lt (Nat.two_pow_pos _)]
  exact Nat.pow_lt_pow_right (by decide) (by omega)

theorem not_fixedPrefix_last (hbits : t.levels * acc + 1 < NodeId.BITS) :
    ¬ t.FixedPrefix (t.levels * levelWidth acc) := by
  intro h
  have hacc := t.acc_pos
  have hm : t.levels * acc < NodeId.BITS := by omega
  have htop := h.agree (flip_ne_root hm) (flip_ne_root hbits)
    (getBucketIndex_flip le_rfl hm) (getBucketIndex_flip (Nat.le_succ _) hbits)
  rw [getBucketPrefixLength_last] at htop
  have hnext : top (t.levels * acc + 1) (t.root ^^^ t.flip (t.levels * acc)) =
      top (t.levels * acc + 1) (t.root ^^^ t.flip (t.levels * acc + 1)) := by
    rw [top_xor, top_xor, top_eq_of_le (by omega) htop]
  have hone : top (t.levels * acc + 1) (t.root ^^^ t.flip (t.levels * acc)) = 1 := by
    rw [top, root_xor_flip hm, Nat.shiftRight_eq_div_pow, Nat.sub_sub, Nat.add_comm 1,
      Nat.div_self (Nat.two_pow_pos _)]
  have hzero : top (t.levels * acc + 1) (t.root ^^^ t.flip (t.levels * acc + 1)) = 0 := by
    rw [top, root_xor_flip hbits, Nat.shiftRight_eq_div_pow]
    exact Nat.div_eq_of_lt (Nat.pow_lt_pow_right (by decide) (by omega))
  rw [hone, hzero] at hnext
  exact absurd hnext (by decide)

/-- One bit is left, but the digit after the levels is longer: the only id of the last bucket has no
prefix of that length. -/
theorem not_fixedPrefix_beyond (hbits : t.levels * acc + 1 = NodeId.BITS) (hacc : acc ≠ 1) :
    ¬ t.FixedPrefix (t.levels * levelWidth acc) := by
  intro h
  have hpos := t.acc_pos
  have hm : t.levels * acc < NodeId.BITS := by omega
  obtain ⟨subnet, hsubnet, -⟩ := h.subnet (flip_ne_root hm) (getBucketIndex_flip le_rfl hm)
  have hle := (DeriveFwdTableEntries.prefixSubnet_cases hsubnet).1
  rw [getBucketPrefixLength_last] at hle
  omega

theorem fixedPrefix_last_iff :
    t.FixedPrefix (t.levels * levelWidth acc) ↔
      NodeId.BITS ≤ t.levels * acc ∨ acc = 1 ∧ NodeId.BITS ≤ t.levels * acc + 1 := by
  constructor
  · intro h
    have hbits : NodeId.BITS ≤ t.levels * acc + 1 := by
      by_contra hlt
      exact not_fixedPrefix_last (Nat.not_le.1 hlt) h
    by_cases hall : NodeId.BITS ≤ t.levels * acc
    · exact .inl hall
    · have hacc : acc = 1 := by
        by_contra hne
        exact not_fixedPrefix_beyond (by omega) hne h
      exact .inr ⟨hacc, hbits⟩
  · rintro (h | ⟨hacc, h⟩)
    · exact fixedPrefix_of_single (Nat.le_succ_of_le h) (.inl h)
    · exact fixedPrefix_of_single h (.inr hacc)

/-! ## The entry of a bucket -/

/-- The contacts of a bucket are other nodes, in their place, and the valid ones have a path. -/
structure Filled (t : FlatRoutingTable k acc) (i : Nat) (bucket : Bucket k) : Prop where
  get : t.buckets[i]? = some bucket
  ne_root : ∀ c ∈ bucket.contacts, c.id ≠ t.root
  home : ∀ c ∈ bucket.contacts, t.getBucketIndex c.id = i
  path : ∀ c ∈ bucket.contacts, c.isValid = true → ∃ path, c.path = some path

theorem closestOf_of_paths {bucket : Bucket k}
    (h : ∀ c ∈ bucket.contacts, c.isValid = true → ∃ path, c.path = some path) :
    ∃ r, closestOf bucket = .ok r := by
  refine ⟨_, bind_eq_ok.2 ⟨(bucket.contacts.filter Contact.isValid).map fun c ↦
    (c, (c.path.map Path.size).getD 0), mapM_eq_ok.2 ?_, rfl⟩⟩
  rw [List.forall₂_map_right_iff, List.forall₂_same]
  intro c hc
  obtain ⟨path, hpath⟩ := h c (List.mem_filter.1 hc).1 (List.mem_filter.1 hc).2
  simp [hpath]

/-- With a fixed prefix, an entry is derived for every filled bucket, and it covers exactly the ids
of the bucket. -/
theorem FixedPrefix.derived {i : Nat} {bucket : Bucket k} (h : t.FixedPrefix i)
    (hfilled : t.Filled i bucket) (cfg : FwdConfig) :
    ∃ r, deriveBucketPrefixEntry cfg t i = .ok r ∧ ∀ entry, r = .ok (some entry) →
      ∀ y, y ≠ t.root → (entry.destination.Covers y ↔ t.getBucketIndex y = i) := by
  have hbucket : RoutingTable.bucketByIndex t i = .ok bucket := expect_eq_ok.2 hfilled.get
  obtain ⟨closest, hclosest⟩ := closestOf_of_paths hfilled.path
  rw [deriveBucketPrefixEntry, hbucket, ok_bind, hclosest, ok_bind]
  rcases DeriveFwdTableEntries.closestOf_cases hclosest with ⟨rfl, -⟩ | ⟨c, path, rfl, hbest⟩
  · exact ⟨_, rfl, nofun⟩
  · have hne := hfilled.ne_root c hbest.mem
    obtain ⟨subnet, hsubnet, hcovers⟩ := h.subnet hne (hfilled.home c hbest.mem)
    have hroot : (c.id != RoutingTable.root t) = true := bne_iff_ne.2 hne
    simp only [assert_of hroot, ok_bind, hbest.path_eq, expect_some]
    rw [show prefixSubnet c.id (RoutingTable.getBucketPrefixLength t i) = .ok subnet from hsubnet,
      ok_bind]
    split
    · exact ⟨_, rfl, nofun⟩
    · refine ⟨_, rfl, fun entry hentry ↦ ?_⟩
      obtain rfl := Option.some.inj (Except.ok.inj hentry)
      rwa [DeriveFwdTableEntries.entryTo_destination]

end FlatRoutingTable

/-- **Which buckets have a fixed prefix**: all of them but the last one, and the last one if the
levels leave no bit of an id, or one bit that is a digit of its own.  An entry derived for such a
bucket covers exactly the ids of the bucket. -/
theorem fixedPrefix_iff {k acc : Nat} (t : FlatRoutingTable k acc) {i : Nat}
    (hi : i < t.numBuckets) :
    (t.FixedPrefix i ↔ i + 1 < t.numBuckets ∨ NodeId.BITS ≤ t.levels * acc ∨
        acc = 1 ∧ NodeId.BITS ≤ t.levels * acc + 1) ∧
      ∀ {bucket : Bucket k}, t.FixedPrefix i → t.Filled i bucket → ∀ cfg : FwdConfig,
        ∃ r, deriveBucketPrefixEntry cfg t i = .ok r ∧ ∀ entry, r = .ok (some entry) →
          ∀ y, y ≠ t.root → (entry.destination.Covers y ↔ t.getBucketIndex y = i) := by
  refine ⟨?_, fun h hfilled ↦ h.derived hfilled⟩
  have hw := levelWidth_pos t.acc_pos
  have hnum := t.numBuckets_eq
  by_cases hlast : i = t.levels * levelWidth acc
  · subst hlast
    rw [or_iff_right (by omega), FlatRoutingTable.fixedPrefix_last_iff]
  · refine iff_of_true ?_ (.inl (by omega))
    have hlevel : i / levelWidth acc < t.levels := (Nat.div_lt_iff_lt_mul hw).2 (by omega)
    have hsplit := Nat.div_add_mod' i (levelWidth acc)
    rw [← hsplit]
    exact FlatRoutingTable.fixedPrefix_of_level hlevel (Nat.mod_lt _ hw)

/-- A contact whose id starts with `11`. -/
def startsWithOnes : Contact := Contact.ofIds [3 <<< 110] (by decide) .MIN

/-- The table with four buckets that a first split leaves, with a contact in the first of them. -/
def FlatRoutingTable.splitOnce : FlatRoutingTable 1 2 :=
  ⟨⟨[some startsWithOnes], rfl⟩ :: List.replicate 3 .new, 0, by decide, by decide, 1, by decide,
    by decide⟩

/-- The first bucket of the table has a fixed prefix, and the entry derived from its contact covers
the ids that start with `11`. -/
theorem fixedPrefix_first :
    FlatRoutingTable.splitOnce.FixedPrefix 0 ∧
      ∃ entry, deriveBucketPrefixEntry ⟨fun _ ↦ some ⟨1, 1⟩, fun _ ↦ 0⟩
          FlatRoutingTable.splitOnce 0 = .ok (.ok (some entry)) ∧
        entry.destination = ⟨3 <<< 110, 2⟩ ∧
        ∀ y, y ≠ 0 →
          (entry.destination.Covers y ↔ FlatRoutingTable.splitOnce.getBucketIndex y = 0) := by
  have hi : 0 < FlatRoutingTable.splitOnce.numBuckets := by decide
  obtain ⟨hiff, hderived⟩ := fixedPrefix_iff FlatRoutingTable.splitOnce hi
  have hfixed := hiff.2 (.inl (by decide))
  have hfilled : FlatRoutingTable.splitOnce.Filled 0 ⟨[some startsWithOnes], rfl⟩ :=
    ⟨rfl, by decide +kernel, by decide +kernel, fun c hc _ ↦ by
      obtain rfl := List.mem_singleton.1 hc
      exact ⟨_, rfl⟩⟩
  obtain ⟨r, hr, hcovers⟩ := hderived hfixed hfilled ⟨fun _ ↦ some ⟨1, 1⟩, fun _ ↦ 0⟩
  obtain ⟨entry, hentry, hdest⟩ : ∃ entry, r = .ok (some entry) ∧
      entry.destination = ⟨3 <<< 110, 2⟩ := by
    cases hr
    exact ⟨_, rfl, by decide +kernel⟩
  exact ⟨hfixed, entry, hentry ▸ hr, hdest, hcovers entry hentry⟩

/-- **The only bucket of an empty table has no fixed prefix.**  All ids belong into it, but the
length of its prefix is one. -/
theorem single_bucket_not_fixed :
    (FlatRoutingTable.new 0 (by decide) (by decide) : FlatRoutingTable 20 1).getBucketPrefixLength
        0 = 1 ∧
      ¬ (FlatRoutingTable.new 0 (by decide) (by decide) : FlatRoutingTable 20 1).FixedPrefix 0 := by
  refine ⟨rfl, fun h ↦ ?_⟩
  have hagree := h.agree (x := 1) (y := .twoPow _ 111) (by decide) (by decide) (by decide)
    (by decide)
  exact absurd hagree (by decide +kernel)

end Kira
