import Hostpath.Legacy.Provisioner

/-!
# The directories of different claims

The directory of a volume is a child of the provisioner's directory, named after the claim: `pvc-`
and the uid, or the name of the claim, a dash, and that.  The parts are put together without any
escaping, and which of the two forms is used may change from one start of the provisioner to the
next.

All forms end in the uid (`uid_suffix`), so that two names can be equal only if one uid ends in the
other, which uids of one length do not (`eq_of_suffix`).  Hence the directories of two claims are
different children of one directory, and neither is in the other (`directories_apart`).
-/

namespace Hostpath.Legacy

open Lib FilePath

/-- The uid and the name of a claim can be parts of a file name. -/
structure PersistentVolumeClaim.Named (claim : PersistentVolumeClaim) : Prop where
  uid_ne : claim.uid ≠ ""
  uid_slash : '/' ∉ claim.uid.toList
  name_ne : claim.name ≠ ""
  name_slash : '/' ∉ claim.name.toList

/-- Two strings of one length, in characters or in bytes. -/
def SameLength (u v : String) : Prop := u.length = v.length ∨ u.utf8ByteSize = v.utf8ByteSize

/-- The path `b` names something at or below what `a` names. -/
def Contains (a b : String) : Prop := ∃ l m, locate a = some l ∧ locate b = some m ∧ l <+: m

variable {p q : HostPathProvisioner} {options options' : ProvisionOptions} {u v : String}

lemma eq_of_suffix (hlen : SameLength u v) (h : u.toList <:+ v.toList) : u = v := by
  obtain ⟨t, ht⟩ := h
  have hv : v = String.ofList t ++ u := by
    rw [← String.toList_inj, String.toList_append, String.toList_ofList, ht]
  have ht : String.ofList t = "" := by
    rcases hlen with hlen | hlen
    · rw [hv, String.length_append] at hlen
      exact String.length_eq_zero_iff.mp (by omega)
    · rw [hv, String.utf8ByteSize_append] at hlen
      exact String.utf8ByteSize_eq_zero_iff.mp (by omega)
  rw [hv, ht, String.empty_append]

/-- Two strings that end in different strings of one length are different. -/
lemma ne_of_suffix {a b : String} (hlen : SameLength u v) (hne : u ≠ v) (ha : u.toList <:+ a.toList)
    (hb : v.toList <:+ b.toList) : a ≠ b := by
  rintro rfl
  rcases List.suffix_or_suffix_of_suffix ha hb with h | h
  · exact hne (eq_of_suffix hlen h)
  · exact hne (eq_of_suffix (hlen.imp Eq.symm Eq.symm) h).symm

/-! ## The name of a directory -/

/-- The last component of the directory. -/
def HostPathProvisioner.dirName (p : HostPathProvisioner) (options : ProvisionOptions) : String :=
  if p.useNamingPrefix then options.pvc.name ++ "-" ++ options.pvName else options.pvName

lemma vPath_eq_join : p.vPath options = join [p.pvDir, p.dirName options] := by
  unfold HostPathProvisioner.vPath HostPathProvisioner.dirName
  split_ifs <;> rfl

section Name

variable (ho : options.pvName = getProvisionedVolumeNameForClaim options.pvc)
include ho

lemma uid_suffix : options.pvc.uid.toList <:+ (p.dirName options).toList := by
  unfold HostPathProvisioner.dirName
  rw [ho, getProvisionedVolumeNameForClaim]
  split_ifs
  · rw [← String.append_assoc, String.toList_append]
    exact List.suffix_append _ _
  · rw [String.toList_append]
    exact List.suffix_append _ _

lemma dirName_valid (hclaim : options.pvc.Named) : ValidName (p.dirName options) := by
  have hmem : 'c' ∈ (p.dirName options).toList := by
    unfold HostPathProvisioner.dirName
    rw [ho, getProvisionedVolumeNameForClaim]
    split_ifs <;> simp
  have hslash : '/' ∉ (p.dirName options).toList := by
    unfold HostPathProvisioner.dirName
    rw [ho, getProvisionedVolumeNameForClaim]
    split_ifs <;> simp [hclaim.uid_slash, hclaim.name_slash]
  refine ⟨?_, ?_, ?_, hslash⟩ <;>
  · intro h
    rw [h] at hmem
    simp at hmem

lemma locate_vPath (hclaim : options.pvc.Named) :
    locate (p.vPath options) = some (resolve [] (elems p.pvDir) ++ [p.dirName options]) := by
  have hvalid := dirName_valid (p := p) ho hclaim
  rw [vPath_eq_join]
  refine locate_join_of_descend p.pvDir (by simp) ?_
  rw [List.flatMap_singleton, elems_valid hvalid, descend, descend,
    if_neg (by simp [hvalid.1, hvalid.2.1]), if_neg hvalid.2.2.1]
  rfl

end Name

/-- **The directories of different claims are apart**, whatever form of the names each of the two
uses. -/
theorem directories_apart (hdir : p.pvDir = q.pvDir)
    (ho : options.pvName = getProvisionedVolumeNameForClaim options.pvc)
    (ho' : options'.pvName = getProvisionedVolumeNameForClaim options'.pvc)
    (hclaim : options.pvc.Named) (hclaim' : options'.pvc.Named)
    (hlen : SameLength options.pvc.uid options'.pvc.uid) (huid : options.pvc.uid ≠ options'.pvc.uid) :
    p.vPath options ≠ q.vPath options' ∧ ¬ Contains (p.vPath options) (q.vPath options')
      ∧ ¬ Contains (q.vPath options') (p.vPath options) := by
  have hne : p.dirName options ≠ q.dirName options' :=
    ne_of_suffix hlen huid (uid_suffix ho) (uid_suffix ho')
  have hl := locate_vPath (p := p) ho hclaim
  have hl' := locate_vPath (p := q) ho' hclaim'
  rw [hdir] at hl
  have happ : ∀ (l : Loc) {m n : String}, l ++ [m] <+: l ++ [n] → m = n := by
    intro l m n h
    simpa using List.prefix_append_right_inj l |>.mp h
  refine ⟨?_, ?_, ?_⟩
  · intro h
    rw [h, hl'] at hl
    exact hne (by simpa using hl.symm)
  · rintro ⟨l, m, hlm, hm, hpre⟩
    rw [hl] at hlm
    rw [hl'] at hm
    cases hlm
    cases hm
    exact hne (happ _ hpre)
  · rintro ⟨l, m, hlm, hm, hpre⟩
    rw [hl'] at hlm
    rw [hl] at hm
    cases hlm
    cases hm
    exact hne (happ _ hpre).symm

namespace Sample

def namedClaim (name uid : String) : PersistentVolumeClaim :=
  ⟨"default", name, uid, ∅, "", none, none, 0⟩

/-- What a provisioner is asked to make for a claim. -/
def optionsFor (claim : PersistentVolumeClaim) : ProvisionOptions :=
  ⟨⟨"hostpath", defaultProvisionerName, none, none⟩, getProvisionedVolumeNameForClaim claim, claim,
    none⟩

lemma pvName_optionsFor (claim : PersistentVolumeClaim) :
    (optionsFor claim).pvName = getProvisionedVolumeNameForClaim (optionsFor claim).pvc := rfl

/-- The provisioner before and after a restart that turned the naming off. -/
def named : HostPathProvisioner := ⟨"/pv", "id", "node", true⟩

def unnamed : HostPathProvisioner := ⟨"/pv", "id", "node", false⟩

end Sample

/-- Two claims of one name. -/
theorem sample_directories_apart :
    Sample.named.vPath (Sample.optionsFor (Sample.namedClaim "a" "1-2"))
      ≠ Sample.unnamed.vPath (Sample.optionsFor (Sample.namedClaim "a" "a-2")) :=
  (directories_apart (p := Sample.named) (q := Sample.unnamed) rfl
    (Sample.pvName_optionsFor (Sample.namedClaim "a" "1-2"))
    (Sample.pvName_optionsFor (Sample.namedClaim "a" "a-2"))
    ⟨by decide, by decide, by decide, by decide⟩ ⟨by decide, by decide, by decide, by decide⟩
    (Or.inl (by decide)) (by decide)).1

end Hostpath.Legacy
