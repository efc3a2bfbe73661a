import HostingPanel.Proofs.WebSpace

/-!
# Protected areas and mount points

Web space lies in a directory, the normal form of its mount point, and the protected areas within
the directory are to go with it.  They are looked for by a pattern: the path has to be like the
directory and anything behind it.  A path within the directory is always found.  But a pattern of
this kind knows no segments: `/shop%` covers `/shop-archive`, a directory beside `/shop`.  It knows
no case either, and underscores in the directory stand for any character.

`areas_within_mount_iff` says exactly when only areas within the directory are scheduled.
-/

namespace HostingPanel

open OperationM Statement

namespace Text

/-- A path lies within a directory if it is the directory or goes on with a slash.  Within the root
lies every path that starts with the slash of the root. -/
def liesWithin (directory path : List Char) : Bool :=
  path == directory || (directory ++ ['/']).isPrefixOf path ||
    (directory == ['/'] && directory.isPrefixOf path)

lemma prefix_of_liesWithin {directory path : List Char} (h : liesWithin directory path = true) :
    directory <+: path := by
  simp only [liesWithin, Bool.or_eq_true, Bool.and_eq_true, beq_iff_eq,
    List.isPrefixOf_iff_prefix] at h
  rcases h with (rfl | hbelow) | ⟨-, hroot⟩
  · exact List.prefix_rfl
  · exact (List.prefix_append directory ['/']).trans hbelow
  · exact hroot

/-- The pattern for a stem covers what starts with it. -/
lemma like_startingWith {stem path : String} (h : stem.toList <+: path.toList) :
    like (startingWith stem).toList path.toList = true := by
  obtain ⟨rest, hrest⟩ := h
  have hpattern : (startingWith stem).toList = stem.toList ++ ['%'] := by
    simp [startingWith]
  rw [hpattern, ← hrest]
  exact like_append_percent _ _

end Text

namespace Jobs.WebSpace

/-- Whether a protected area belongs to the web space: it is one of the domain, and its path lies
within the directory. -/
def holdsArea (w : WebSpace) (a : ProtectedArea) : Bool :=
  Cell.agree a.domainId w.domainId &&
    a.path.any fun path => Text.liesWithin w.directory.toList path.toList

/-- Every protected area that does not belong to the web space is as it was. -/
def KeepsAreasOutside (w : WebSpace) (s s' : Store) : Prop :=
  List.Forall₂ (fun (a a' : ProtectedArea) => w.holdsArea a = false → a' = a)
    (s.rows .area) (s'.rows .area)

variable {w : WebSpace} {s s' : Store} {a : ProtectedArea}

lemma picksArea_of_prefix {path : String} (hdomain : Cell.agree a.domainId w.domainId = true)
    (hpath : a.path = some path) (h : w.directory.toList <+: path.toList) :
    w.picksArea a = true := by
  simp [picksArea, hdomain, Cell.isLike, hpath, Text.like_startingWith h]

/-- What belongs to the web space is picked by its deletion. -/
lemma picksArea_of_holdsArea (h : w.holdsArea a = true) : w.picksArea a = true := by
  simp only [holdsArea, Bool.and_eq_true, Option.any_eq_true] at h
  obtain ⟨hdomain, path, hpath, hwithin⟩ := h
  exact picksArea_of_prefix hdomain hpath (Text.prefix_of_liesWithin hwithin)

/-- Scheduling the areas that are picked keeps those outside exactly if all that are picked belong
to the web space or wait for their deletion already. -/
lemma keepsAreasOutside_iff
    (hrows : s'.rows .area = updateRows w.picksArea
      (fun a => { a with status := some Status.toDelete }) (s.rows .area)) :
    w.KeepsAreasOutside s s' ↔
      ∀ a : ProtectedArea, a ∈ s.rows .area → w.picksArea a = true →
        a.status ≠ some Status.toDelete → w.holdsArea a = true := by
  unfold KeepsAreasOutside
  rw [hrows, updateRows, List.forall₂_map_right_iff, List.forall₂_same]
  refine forall₂_congr fun (a : ProtectedArea) _ => ?_
  have hsame : { a with status := some Status.toDelete } = a ↔ a.status = some Status.toDelete :=
    Table.scheduled_eq_self_iff (t := .area) rfl
  cases hpicked : w.picksArea a with
  | false => simp
  | true =>
    cases hheld : w.holdsArea a with
    | false => simp [hsame]
    | true => simp

end Jobs.WebSpace

/-- Only protected areas within the mount point are scheduled exactly if the pattern finds no others.
Take any database and any successful deletion of a subdomain, a subdomain of an alias or an alias.
The areas that are scheduled are those of the domain whose paths are like the pattern for the normal
form of the mount point, and everything within the directory is among them.  Every area that is not
a path of the domain within the directory is as it was if and only if each area that is picked lies
within the directory or was waiting for its deletion before. -/
theorem areas_within_mount_iff {user : User} {job : Job} {c : Context} {p q : Panel}
    {answer : String} (hweb : job.isWebDeletion = true)
    (hrun : run (job.run user) c p = (.ok answer, q)) :
    ∃ customer w, user.id = .ok customer ∧ job.webSpace? customer p.store = some w ∧
      q.store.rows .area = updateRows (fun (a : ProtectedArea) =>
          Cell.agree a.domainId w.domainId &&
            Cell.isLike (Text.startingWith (Text.normalizePath w.mount)) a.path)
        (fun (a : ProtectedArea) => { a with status := some "todelete" }) (p.store.rows .area) ∧
      (∀ a : ProtectedArea, w.holdsArea a = true → w.picksArea a = true) ∧
      (w.KeepsAreasOutside p.store q.store ↔
        ∀ a : ProtectedArea, a ∈ p.store.rows .area → w.picksArea a = true →
          a.status ≠ some "todelete" → w.holdsArea a = true) := by
  obtain ⟨customer, w, hcustomer, hfound, hgone⟩ := Jobs.WebSpace.gone_of_run hweb hrun
  exact ⟨customer, w, hcustomer, hfound, hgone.areas,
    fun _ => Jobs.WebSpace.picksArea_of_holdsArea,
    Jobs.WebSpace.keepsAreasOutside_iff hgone.areas⟩

/-- A protected area of the customer of the samples, with a status. -/
def sampleArea (path status : String) : ProtectedArea :=
  { id := 11, domainId := some (.whole 1), path := some path, status := some status }

/-- A panel with a customer who has a subdomain in the directory `/shop` and a protected area. -/
def sampleMount (path : String) : Panel where
  store :=
    ((Store.empty.set .domain
      [{ id := 1, name := some "example.test", ownerId := some (.whole 7) }]).set .subdomain
      [{ id := 3, domainId := some (.whole 1), name := some "shop", mount := some "//shop/" }]).set
        .area [sampleArea path "ok"]
  notifier := Notifier.create {}

/-- The panel after the customer has deleted the subdomain. -/
def sampleMountLeft (path : String) : Panel :=
  (run (Job.run sampleCustomer (.deleteSubdomain (.int 3))) {} (sampleMount path)).2

/-- An area at `/archive` is not found, so nothing outside is scheduled. -/
theorem areas_within_mount_iff_sample :
    run (Job.run sampleCustomer (.deleteSubdomain (.int 3))) {} (sampleMount "/archive") =
        (.ok "Subdomain scheduled for deletion.", sampleMountLeft "/archive") ∧
      Jobs.WebSpace.KeepsAreasOutside
        ⟨.ofHost "shop.example.test", some (.whole 1), some "//shop/"⟩
        (sampleMount "/archive").store (sampleMountLeft "/archive").store := by
  have hrun : run (Job.run sampleCustomer (.deleteSubdomain (.int 3))) {} (sampleMount "/archive") =
      (.ok "Subdomain scheduled for deletion.", sampleMountLeft "/archive") :=
    Prod.ext rfl rfl
  obtain ⟨customer, w, hcustomer, hfound, -, -, hiff⟩ :=
    areas_within_mount_iff (p := sampleMount "/archive") (by rfl) hrun
  cases hcustomer
  have hweb : (Job.deleteSubdomain (.int 3)).webSpace? (.int 7) (sampleMount "/archive").store =
      some ⟨.ofHost "shop.example.test", some (.whole 1), some "//shop/"⟩ := by
    rfl
  cases hweb.symm.trans hfound
  refine ⟨hrun, hiff.2 fun a ha hpicked _ => ?_⟩
  obtain rfl := List.mem_singleton.1 ha
  exact absurd hpicked (by decide +kernel)

/-- A directory beside the mount point whose name only begins in the same way: its area is scheduled
although it lies outside. -/
theorem sibling_area_scheduled :
    run (Job.run sampleCustomer (.deleteSubdomain (.int 3))) {} (sampleMount "/shop-archive") =
        (.ok "Subdomain scheduled for deletion.", sampleMountLeft "/shop-archive") ∧
      Text.normalizePath (some "//shop/") = "/shop" ∧
      Text.liesWithin "/shop".toList "/shop-archive".toList = false ∧
      (sampleMountLeft "/shop-archive").store.rows .area =
        [sampleArea "/shop-archive" "todelete"] := by
  refine ⟨Prod.ext rfl rfl, ?_, ?_, ?_⟩
  · decide +kernel
  · decide
  · decide +kernel

end HostingPanel
