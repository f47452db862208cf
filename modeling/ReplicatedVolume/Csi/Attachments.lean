import Mathlib

/-!
# The attachments of the CSI driver

The driver finds the attachment of a volume on a node by a name made of both. Names are short enough
or cut and completed by a hash; the names of volumes and nodes are ASCII. Every API call succeeds.
-/

namespace ReplicatedVolume.Csi
open Function

def csiControllerFinalizer : String := "sds-replicated-volume.deckhouse.io/csi-controller"

/-- `ready`: the status of Ready; `refused`: whether Attached is false because of locality. -/
structure RVA where
  replicatedVolumeName : String
  nodeName : String
  deleting : Bool
  finalizers : List String
  inUse : Option Bool
  ready : Option Bool
  refused : Option Bool
  devicePath : String
  deriving DecidableEq

abbrev Store := String → Option RVA

inductive Report where
  | ok | error | ready | path (devicePath : String)
  deriving DecidableEq

def trimSuffix (c : Char) (s : List Char) : List Char :=
  if s.getLast? = some c then s.dropLast else s

def truncateReplicatedVolumeAttachmentNamePart (s : String) (maxLen : ℕ) : String :=
  if s.length ≤ maxLen then s
  else String.ofList (trimSuffix '.' (trimSuffix '-' (s.toList.take maxLen)))

/-- The first eight digits of a SHA-1. -/
abbrev Digest := {digits : String // digits.length = 8}

section
variable (hash : String → Digest)

def formatReplicatedVolumeAttachmentName (vol node : String) : String :=
  let base := "csi-" ++ vol ++ "-" ++ node
  if base.length ≤ 253 then base
  else "csi-" ++ truncateReplicatedVolumeAttachmentNamePart vol 119 ++ "-" ++
    truncateReplicatedVolumeAttachmentNamePart node 120 ++ "-" ++ (hash base).val

variable (s : Store) (vol node : String)

abbrev rvaName : String := formatReplicatedVolumeAttachmentName hash vol node

def getDevicePathFromRVA : Report :=
  match s (rvaName hash vol node) with
  | none => .error
  | some rva => if rva.devicePath = "" then .error else .path rva.devicePath

def createRVA : Store :=
  match s (rvaName hash vol node) with
  | some _ => s
  | none => update s (rvaName hash vol node)
    (some ⟨vol, node, false, [csiControllerFinalizer], none, none, none, ""⟩)

/-- `gone`: an attachment that is being deleted disappears before the deadline. -/
def ensureRVA (gone : Bool) : Store × Report :=
  match s (rvaName hash vol node) with
  | none => (createRVA hash s vol node, .ok)
  | some existing =>
    if existing.replicatedVolumeName ≠ vol ∨ existing.nodeName ≠ node then (s, .error)
    else if existing.deleting then
      if gone then (createRVA hash (update s (rvaName hash vol node) none) vol node, .ok)
      else (s, .error)
    else if csiControllerFinalizer ∉ existing.finalizers then
      (update s (rvaName hash vol node) (some { existing with
        finalizers := existing.finalizers ++ [csiControllerFinalizer] }), .ok)
    else (s, .ok)

def deleteRVA : Store × Report :=
  match s (rvaName hash vol node) with
  | none => (s, .ok)
  | some rva =>
    if rva.inUse = some true then (s, .error)
    else
      let finalizers := rva.finalizers.filter (· ≠ csiControllerFinalizer)
      (update s (rvaName hash vol node)
        (if finalizers = [] then none else some { rva with deleting := true, finalizers }), .ok)

/-- One round for each store it finds until the deadline. -/
def waitForRVAReady (lastRefused : Bool) : List Store → Report
  | [] => .error
  | s :: polls =>
    match s (rvaName hash vol node) with
    | none => waitForRVAReady lastRefused polls
    | some rva =>
      let lastRefused := rva.refused.getD lastRefused
      match rva.ready with
      | none => waitForRVAReady lastRefused polls
      | some true => .ready
      | some false => if lastRefused then .error else waitForRVAReady lastRefused polls

/-- A volume name that goes on with `-s` where a node name starts with `s-`. -/
def Crossed (p q : String × String) : Prop := ∃ s, q.1 = p.1 ++ "-" ++ s ∧ p.2 = s ++ "-" ++ q.2

def Alike (p q : String × String) : Prop := p = q ∨ Crossed p q ∨ Crossed q p

def short (p : String × String) : Bool := p.1.length + p.2.length ≤ 248

def cut (p : String × String) : String × String :=
  (truncateReplicatedVolumeAttachmentNamePart p.1 119,
    truncateReplicatedVolumeAttachmentNamePart p.2 120)

def digest (p : String × String) : String := (hash ("csi-" ++ p.1 ++ "-" ++ p.2)).val

def digested (p : String × String) : String × String :=
  ((cut p).1, (cut p).2 ++ "-" ++ digest hash p)

/-- Two pairs with one name. Those that are shortened also have the same digest. -/
def Clash (p q : String × String) : Prop :=
  match short p, short q with
  | true, true => Alike p q
  | true, false => Alike p (digested hash q)
  | false, true => Alike (digested hash p) q
  | false, false => digest hash p = digest hash q ∧ Alike (cut p) (cut q)

/-- An attachment the driver creates: named after its spec, for one of the pairs. -/
def CreatedFor (pairs : Set (String × String)) : Prop :=
  ∀ name rva, s name = some rva → (rva.replicatedVolumeName, rva.nodeName) ∈ pairs ∧
    name = rvaName hash rva.replicatedVolumeName rva.nodeName

def RVA.Names (rva : RVA) : Prop := rva.replicatedVolumeName = vol ∧ rva.nodeName = node

/-- What the calls change, report or return belongs to an attachment of that volume and node. -/
structure ActsOnOwn (pairs : Set (String × String)) : Prop where
  ensure : ∀ s gone name rva, CreatedFor hash s pairs → s name = some rva →
    (ensureRVA hash s vol node gone).1 name ≠ some rva → rva.Names vol node
  delete : ∀ s name rva, CreatedFor hash s pairs → s name = some rva →
    (deleteRVA hash s vol node).1 name ≠ some rva → rva.Names vol node
  ready : ∀ lastRefused polls, (∀ s ∈ polls, CreatedFor hash s pairs) →
    waitForRVAReady hash vol node lastRefused polls = .ready →
    ∃ s ∈ polls, ∃ name rva, s name = some rva ∧ rva.ready = some true ∧ rva.Names vol node
  path : ∀ s p, CreatedFor hash s pairs → getDevicePathFromRVA hash s vol node = .path p →
    ∃ name rva, s name = some rva ∧ rva.devicePath = p ∧ rva.Names vol node

end

section
variable {hash : String → Digest} {pairs : Set (String × String)} {p q : String × String}

/-- Where a text with dashes can be split in two ways. -/
theorem append_cons_eq_iff {α : Type} {x : α} {a b c d : List α} : a ++ x :: b = c ++ x :: d ↔
    a = c ∧ b = d ∨ (∃ s, c = a ++ x :: s ∧ b = s ++ x :: d) ∨
      ∃ s, a = c ++ x :: s ∧ d = s ++ x :: b := by
  rw [List.append_eq_append_iff]
  constructor
  · rintro (⟨_ | ⟨y, s⟩, hc, hb⟩ | ⟨_ | ⟨y, s⟩, ha, hd⟩) <;> simp_all
  · rintro (⟨rfl, rfl⟩ | ⟨s, rfl, rfl⟩ | ⟨s, rfl, rfl⟩) <;> simp

theorem crossed_iff : Crossed p q ↔
    ∃ s, q.1.toList = p.1.toList ++ '-' :: s ∧ p.2.toList = s ++ '-' :: q.2.toList := by
  simp only [Crossed, ← String.toList_inj, String.toList_append]
  refine ⟨fun ⟨s, h⟩ => ⟨s.toList, by simpa using h⟩, fun ⟨s, h⟩ => ⟨.ofList s, by simpa using h⟩⟩

theorem joined_eq_iff : p.1 ++ "-" ++ p.2 = q.1 ++ "-" ++ q.2 ↔ Alike p q := by
  have h := append_cons_eq_iff (x := '-') (a := p.1.toList) (b := p.2.toList)
    (c := q.1.toList) (d := q.2.toList)
  simp only [Alike, crossed_iff, Prod.ext_iff, ← String.toList_inj, String.toList_append]
  simpa using h

theorem rvaName_eq : rvaName hash p.1 p.2 =
    let parts := if short p then p else digested hash p
    "csi-" ++ (parts.1 ++ "-" ++ parts.2) := by
  have hfits : ("csi-" ++ p.1 ++ "-" ++ p.2).length ≤ 253 ↔ p.1.length + p.2.length ≤ 248 := by
    simp only [String.length_append, show "csi-".length = 4 from rfl, show "-".length = 1 from rfl]
    omega
  by_cases h : p.1.length + p.2.length ≤ 248 <;>
    simp only [rvaName, formatReplicatedVolumeAttachmentName, hfits, short, h, digested, cut,
      digest, decide_true, decide_false, if_true, if_false, Bool.false_eq_true] <;>
    simp only [String.append_assoc]

theorem append_inj_of_length {a b c d : String} (h : c.length = d.length) :
    a ++ c = b ++ d ↔ a = b ∧ c = d := by
  rw [← String.length_toList, ← String.length_toList] at h
  simp only [← String.toList_inj, String.toList_append]
  exact ⟨fun heq => List.append_inj' heq h, fun ⟨hab, hcd⟩ => hab ▸ hcd ▸ rfl⟩

theorem digested_joined_eq_iff :
    (digested hash p).1 ++ "-" ++ (digested hash p).2 =
        (digested hash q).1 ++ "-" ++ (digested hash q).2 ↔
      digest hash p = digest hash q ∧ Alike (cut p) (cut q) := by
  have hjoined (r) : (digested hash r).1 ++ "-" ++ (digested hash r).2 =
      (cut r).1 ++ "-" ++ (cut r).2 ++ "-" ++ digest hash r := by
    simp only [digested, String.append_assoc]
  rw [hjoined, hjoined, ← joined_eq_iff]
  -- The digests have one length, so they end both texts at the same place.
  have hlength : (digest hash p).length = (digest hash q).length :=
    (hash _).property.trans (hash _).property.symm
  rw [append_inj_of_length hlength, append_inj_of_length rfl, and_comm]
  simp only [and_true]

theorem rvaName_eq_iff : rvaName hash p.1 p.2 = rvaName hash q.1 q.2 ↔ Clash hash p q := by
  rw [rvaName_eq, rvaName_eq, String.append_right_inj]
  cases hp : short p <;> cases hq : short q <;>
    simp only [Clash, hp, hq, if_true, if_false, Bool.false_eq_true]
  · exact digested_joined_eq_iff
  all_goals exact joined_eq_iff

section Frame
variable {s : Store} {vol node name : String}
  (h : name ≠ rvaName hash vol node)
include h

theorem createRVA_of_ne : createRVA hash s vol node name = s name := by
  cases hat : s (rvaName hash vol node) <;> simp [createRVA, hat, update_of_ne h]

theorem ensureRVA_of_ne (gone : Bool) : (ensureRVA hash s vol node gone).1 name = s name := by
  cases hat : s (rvaName hash vol node) with
  | none => simp [ensureRVA, hat, createRVA_of_ne h]
  | some existing =>
    simp only [ensureRVA, hat]
    split_ifs <;> simp [createRVA_of_ne h, update_of_ne h]

theorem deleteRVA_of_ne : (deleteRVA hash s vol node).1 name = s name := by
  cases hat : s (rvaName hash vol node) with
  | none => simp [deleteRVA, hat]
  | some rva =>
    simp only [deleteRVA, hat]
    split <;> simp [update_of_ne h]

end Frame

theorem actsOnOwn_of_injOn
    (hinj : pairs.InjOn fun p => rvaName hash p.1 p.2)
    {vol node : String} (hp : (vol, node) ∈ pairs) : ActsOnOwn hash vol node pairs := by
  have hfound {s : Store} {rva : RVA} (hs : CreatedFor hash s pairs)
      (h : s (rvaName hash vol node) = some rva) :
      rva.Names vol node := by
    obtain ⟨hmem, hname⟩ := hs _ _ h
    exact Prod.mk.inj (hinj hmem hp hname.symm)
  refine ⟨fun s gone name rva hs h hchanged => ?_, fun s name rva hs h hchanged => ?_,
    fun lastRefused polls hpolls h => ?_, fun s p hs h => ?_⟩
  · by_cases hname : name = rvaName hash vol node
    · exact hfound hs (hname ▸ h)
    · exact absurd ((ensureRVA_of_ne hname gone).trans h) hchanged
  · by_cases hname : name = rvaName hash vol node
    · exact hfound hs (hname ▸ h)
    · exact absurd ((deleteRVA_of_ne hname).trans h) hchanged
  · induction polls generalizing lastRefused with
    | nil => simp [waitForRVAReady] at h
    | cons s polls ih =>
      obtain ⟨hs, hpolls⟩ := List.forall_mem_cons.mp hpolls
      have hlater (last : Bool) (h : waitForRVAReady hash vol node last polls = .ready) :=
        (ih last hpolls h).imp fun _ h => And.imp_left (List.mem_cons_of_mem s) h
      unfold waitForRVAReady at h
      split at h
      · exact hlater _ h
      · rename_i rva hrva
        cases hready : rva.ready with
        | none => exact hlater _ (by simpa [hready] using h)
        | some ready =>
          cases ready with
          | true => exact ⟨s, List.mem_cons_self, _, rva, hrva, hready, hfound hs hrva⟩
          | false =>
            simp only [hready] at h
            split at h
            · cases h
            · exact hlater _ h
  · unfold getDevicePathFromRVA at h
    grind

/-- The calls for the pairs in use act on their own attachments only exactly when no two of them
clash. -/
theorem acts_on_own_iff :
    (∀ vol node, (vol, node) ∈ pairs → ActsOnOwn hash vol node pairs) ↔
      pairs.Pairwise fun p q => ¬Clash hash p q := by
  simp only [Set.Pairwise, ← rvaName_eq_iff]
  refine ⟨fun h p hp q hq hne heq => hne ?_, fun hapart vol node hp => actsOnOwn_of_injOn
    (fun p hp q hq heq => by_contra fun hne => hapart hp hq hne heq) hp⟩
  let rva : RVA := ⟨q.1, q.2, false, [], none, none, none, "/dev/drbd0"⟩
  let s : Store := update (fun _ => none) (rvaName hash q.1 q.2) (some rva)
  have hs : ∀ name rva', s name = some rva' → name = rvaName hash q.1 q.2 ∧ rva' = rva := by
    intro name rva' h'
    by_cases hname : name = rvaName hash q.1 q.2
    · exact ⟨hname, by simpa [s, hname, eq_comm] using h'⟩
    · simp [s, hname] at h'
  have hcreated : CreatedFor hash s pairs := by
    intro name rva' h'
    obtain ⟨rfl, rfl⟩ := hs name rva' h'
    exact ⟨hq, rfl⟩
  obtain ⟨name, rva', h', -, hvol, hnode⟩ := (h p.1 p.2 hp).path s "/dev/drbd0" hcreated
    (by simp [getDevicePathFromRVA, s, rva, heq])
  obtain ⟨-, rfl⟩ := hs name rva' h'
  exact Prod.ext hvol.symm hnode.symm

end

/-- Detaching volume `a` from node `b-c` removes the attachment of volume `a-b` on node `c`. -/
theorem delete_hits_other_volume :
    let rva : RVA := ⟨"a-b", "c", false, [csiControllerFinalizer], none, none, none, "/dev/drbd0"⟩
    let s : Store := fun name => if name = "csi-a-b-c" then some rva else none
    formatReplicatedVolumeAttachmentName (fun _ => ⟨"00000000", rfl⟩) "a-b" "c" = "csi-a-b-c" ∧
      (deleteRVA (fun _ => ⟨"00000000", rfl⟩) s "a" "b-c").1 "csi-a-b-c" = none := by
  decide +kernel

end ReplicatedVolume.Csi
