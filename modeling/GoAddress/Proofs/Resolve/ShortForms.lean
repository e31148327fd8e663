import GoAddress.Proofs.Resolve.Canonical

/-!
# Short forms

An entry of a package below the root of the module has a short form: its address with the path of the
package relative to the module. Main statement: the short form resolves to the address of the entry
exactly if the package of the entry answers to its short path, as it does unless another package has
that path.
-/

namespace GoAddress

/-- Addresses that differ in their packages only have different texts. -/
theorem Address.package_eq_of_render {a : Address} {path path' : String}
    (h : (a.withPackage path).render = (a.withPackage path').render) : path = path' := by
  have htext := congrArg String.toList h
  rw [toList_render, toList_render, List.append_assoc, List.append_assoc, List.append_assoc,
    List.append_assoc] at htext
  exact String.toList_inj.mp (List.append_cancel_right htext)

namespace Workspace

variable {program : Program} {p : Package} {first position : Nat}

/-- The short form of an entry is the address that it was listed under, behind the short path of its
package. -/
theorem shortForm?_entryOf {x : Listed} (hpackage : x.1.package = p.path) {short : String}
    (h : (entryOf p x).shortForm? = some short) :
    p.shortPath ≠ "" ∧ p.shortPath ≠ p.path ∧ short = (x.1.withPackage p.shortPath).render := by
  unfold Entry.shortForm? at h
  split at h
  · cases h
  · next hcond =>
    simp only [entryOf, Bool.or_eq_true, String.isEmpty_iff, beq_iff_eq, not_or] at hcond
    obtain ⟨rest, hrest, rfl⟩ := Option.map_eq_some_iff.mp h
    refine ⟨hcond.1, hcond.2, ?_⟩
    have hwhole : p.path.toList ++ rest = x.1.render.toList :=
      List.isPrefixOf?_eq_some_iff_append_eq.mp hrest
    rw [Address.toList_render, hpackage, List.append_assoc, List.append_assoc,
      List.append_cancel_left_eq] at hwhole
    rw [← String.toList_inj, Address.toList_render, String.toList_append, String.toList_ofList,
      hwhole, List.append_assoc, List.append_assoc]
    rfl

/-- What is listed for a package has a symbol, unless it is the package. -/
theorem symbol_ne_none_of_node? {a : Address} {node : Node} (h : p.node? a = some node)
    (hkind : node.kindLabel ≠ "package") : a.symbol ≠ none := by
  intro hsymbol
  unfold Package.node? at h
  rw [hsymbol] at h
  cases h
  exact hkind rfl

/-- The short form of what is listed for a package resolves in the package that answers to the short
path, as the address itself does. -/
theorem resolveText_shortForm (h : SymbolIndex.Placed program p first position)
    (hregular : p.Regular) (hlegal : p.LegalInterfaces)
    (hbound : p.partCount ≤ Address.positionBound) (hreads : program.ReadsBehind p.shortPath)
    {q : Package} (hloaded : program.package? p.shortPath = some q) {x : Listed}
    (hx : x ∈ (ofProgram program).listPackage p) (hkind : x.2.kindLabel ≠ "package") {short : String}
    (hshort : (entryOf p x).shortForm? = some short) :
    (ofProgram program).resolveText short = (ofProgram program).resolveIn q x.1 := by
  obtain ⟨hpackage, hlegible, hnode, hvalid⟩ := node?_of_mem_listPackage h hregular hlegal hx
  obtain ⟨-, -, rfl⟩ := shortForm?_entryOf hpackage hshort
  have hsymbol : x.1.symbol ≠ none := symbol_ne_none_of_node? hnode hkind
  rw [resolveText_behind hreads hloaded (a := x.1.withPackage p.shortPath) rfl
    (hlegible.withPackage _) (hvalid hbound) fun hnone => absurd hnone hsymbol, resolveIn_withPackage]

/-- The short form of an entry resolves to the address of the entry exactly if the package of the
entry answers to its short path. If no other package has that path, as its import path or as its short
path, the short form resolves to what the entry was listed for. Packages outside the module have no
short paths of their own, as in every loaded program by `Program.exists_packages_of_load`. -/
theorem shortForm_resolves_iff (modulePath : String) (files : List SourceFile)
    {packages : List Package} (hpaths : (packages.map (·.path)).Nodup)
    (hregular : ∀ p ∈ packages, p.Regular) (hlegal : ∀ p ∈ packages, p.LegalInterfaces)
    (hbound : ∀ p ∈ packages, p.partCount ≤ Address.positionBound)
    (hproject : ∀ p ∈ packages, p.project = true ∨ p.shortPath = p.path) {e : Entry}
    (he : e ∈ (ofProgram (.ofPackages modulePath files packages)).entries)
    (hkind : e.kind ≠ "package") {short : String} (hshort : e.shortForm? = some short)
    (hreads : (Program.ofPackages modulePath files packages).ReadsBehind e.shortPackage) :
    ((∃ r, ((ofProgram (.ofPackages modulePath files packages)).resolveText short).2 = .ok r ∧
        r.address = e.path) ↔
      ((Program.ofPackages modulePath files packages).package? e.shortPackage).map (·.path) =
        some e.package) ∧
    ((∀ p ∈ packages, p.path = e.shortPackage ∨ p.shortPath = e.shortPackage →
        p.path = e.package) →
      ∃ r, ((ofProgram (.ofPackages modulePath files packages)).resolveText short).2 = .ok r ∧
        r.address = e.path ∧ r.node.kindLabel = e.kind ∧ r.node.note = e.note ∧
        r.package.path = e.package) := by
  obtain ⟨p, hp, x, hx, rfl⟩ := mem_entries.mp he
  have hmem := Program.mem_packages_ofPackages.mp hp
  obtain ⟨first, position, hplaced⟩ :=
    SymbolIndex.exists_placed (Program.nodup_paths_ofPackages hpaths) hp
  obtain ⟨hpackage, -, hnode, -⟩ :=
    node?_of_mem_listPackage hplaced (hregular p hmem) (hlegal p hmem) hx
  obtain ⟨hne, hdiffers, -⟩ := shortForm?_entryOf hpackage hshort
  obtain ⟨q, hloaded⟩ := Program.exists_package?_shortPath hmem
    ((hproject p hmem).resolve_right hdiffers) hne
  obtain ⟨hq, hnamed⟩ := Program.package?_cases hloaded
  have hresolve := resolveText_shortForm hplaced (hregular p hmem) (hlegal p hmem) (hbound p hmem)
    hreads hloaded hx hkind hshort
  -- The package of the entry gives the node that the entry was listed for.
  have hown : q.path = p.path → ∃ r,
      ((ofProgram (.ofPackages modulePath files packages)).resolveText short).2 = .ok r ∧
        r.address = x.1.render ∧ r.node = x.2 ∧ r.package = p := by
    intro hpath
    cases List.inj_on_of_nodup_map hpaths hq hmem hpath
    refine ⟨{ path := readBack x.1, node := x.2, package := p }, ?_, render_readBack x.1, rfl, rfl⟩
    rw [hresolve, resolveIn_eq_ok_iff hplaced (hregular p hmem).kinds]
    exact ⟨hnode, by rw [withPackage_self hpackage], rfl⟩
  refine ⟨⟨?_, ?_⟩, ?_⟩
  · rintro ⟨r, hr, haddress⟩
    rw [hresolve] at hr
    obtain ⟨hr, -⟩ := eq_of_resolveIn hr
    rw [Resolution.address, hr, render_readBack] at haddress
    have htext : (x.1.withPackage q.path).render = (x.1.withPackage p.path).render := by
      rw [haddress, withPackage_self hpackage]
      rfl
    exact Option.map_eq_some_iff.mpr ⟨q, hloaded, Address.package_eq_of_render htext⟩
  · intro hanswer
    obtain ⟨q', hq', hpath⟩ := Option.map_eq_some_iff.mp hanswer
    rw [show (entryOf p x).shortPackage = p.shortPath from rfl, hloaded] at hq'
    cases hq'
    obtain ⟨r, hr, haddress, -⟩ := hown hpath
    exact ⟨r, hr, haddress⟩
  · intro hothers
    have hpath : q.path = p.path := by
      refine hothers q hq ?_
      rcases hnamed with hnamed | ⟨-, -, hnamed⟩
      · exact Or.inl hnamed.symm
      · exact Or.inr hnamed.symm
    obtain ⟨r, hr, haddress, hnode, hpackage⟩ := hown hpath
    exact ⟨r, hr, haddress, by rw [hnode]; rfl, by rw [hnode]; rfl, by rw [hpackage]; rfl⟩

/-- A package of the module `app`, and one below it whose short path is the import path of the
first. -/
def nestedStores : List Package :=
  [{ path := "app/app/store", shortPath := "app/store", name := "store"
     decls := [{ name := "Close", kind := .func, shape := .func { signature := "func Close()" } }] },
   { path := "app/store", shortPath := "store", name := "store"
     decls := [{ name := "Open", kind := .func, shape := .func { signature := "func Open()" } }] }]

/-- The entry of the function of the outer package. -/
def openEntry : Entry :=
  ⟨"app/store.Open", "func", some "func Open()", "app/store", "store"⟩

/-- The entry of the function of the inner package. -/
def closeEntry : Entry :=
  ⟨"app/app/store.Close", "func", some "func Close()", "app/app/store", "app/store"⟩

/-- The short form of the function of the outer package resolves to it. -/
theorem shortForm_resolves_of_outer_package :
    openEntry ∈ (ofProgram (.ofPackages "app" [] nestedStores)).entries ∧
      openEntry.shortForm? = some "store.Open" ∧
      ∃ r, ((ofProgram (.ofPackages "app" [] nestedStores)).resolveText "store.Open").2 = .ok r ∧
        r.address = "app/store.Open" ∧ r.node.kindLabel = "func" := by
  have hentry : openEntry ∈ (ofProgram (.ofPackages "app" [] nestedStores)).entries := by
    rw [Program.ofPackages_of_pairwise (by decide)]
    decide +kernel
  have hshort : openEntry.shortForm? = some "store.Open" := by decide +kernel
  have hreads : (Program.ofPackages "app" [] nestedStores).ReadsBehind openEntry.shortPackage :=
    (Program.plainPath_of_parse (by decide +kernel)).readsBehind.1
  obtain ⟨-, hresolve⟩ := shortForm_resolves_iff "app" [] (by decide) (by decide +kernel)
    (by decide +kernel) (by decide +kernel) (by decide) hentry (by decide) hshort hreads
  obtain ⟨r, hr, haddress, hkind, -⟩ := hresolve (by decide)
  exact ⟨hentry, hshort, r, hr, haddress, hkind⟩

/-- The short form of the function of the inner package does not resolve: the outer package has the
short path as its import path and declares no such function. -/
theorem shortForm_of_inner_package_fails :
    closeEntry ∈ (ofProgram (.ofPackages "app" [] nestedStores)).entries ∧
      closeEntry.kind ≠ "package" ∧ closeEntry.shortForm? = some "app/store.Close" ∧
      (ofProgram (.ofPackages "app" [] nestedStores)).resolveText "app/store.Close" =
        ([], .error (.symbolNotFound "app/store" "Close")) := by
  rw [Program.ofPackages_of_pairwise (by decide)]
  exact ⟨by decide +kernel, by decide, by decide +kernel, by decide +kernel⟩

end Workspace

end GoAddress
