/-
# JsonQuery.Proofs.Schema.Measure — every step of a compilation leaves less to do.

A step can add tasks, documents and waiting references, so no count of them goes down.  What goes
down is a multiset of numbers, in which one number may be replaced by any number of smaller ones.  A
schema counts by its room, and the schemas in it take less room.  A registered document counts once
for every pointer that leads anywhere in it and is not known as an address: compiling the part there
makes the pointer known, and is less to do because the part takes less room than the document.  The
root of a document is always known, so the part is never the whole document.  A document that is
still outside counts for itself; it can be registered only once.
-/
import Mathlib.Data.Finset.Max
import Mathlib.Data.Multiset.DershowitzManna
import JsonQuery.Proofs.Schema.Agenda

namespace JsonQuery.Schema

/-! ## Replacing numbers by smaller ones -/

/-- **`isDershowitzMannaLT_of_add_le`** — a multiset is smaller than another if it takes more to
fill it up to the other than the other way round, when all that fills up the other is topped by
something that fills up the one. -/
theorem isDershowitzMannaLT_of_add_le {M N Y Z : Multiset Nat} (h : M + Z ≤ N + Y) (hZ : Z ≠ 0)
    (hlt : ∀ y ∈ Y, ∃ z ∈ Z, y < z) : M.IsDershowitzMannaLT N := by
  obtain ⟨top, htop, hmax⟩ := Multiset.exists_max_image id hZ
  have hbelow : ∀ y ∈ Y, y < top := by
    intro y hy
    obtain ⟨z, hz, hlt⟩ := hlt y hy
    exact hlt.trans_le (hmax z hz)
  have hcount : ∀ n, M.count n + Z.count n ≤ N.count n + Y.count n := by
    intro n
    simpa only [Multiset.count_add] using Multiset.le_iff_count.mp h n
  have hfree : Y.count top = 0 :=
    Multiset.count_eq_zero.mpr fun hmem => absurd (hbelow top hmem) (Nat.lt_irrefl top)
  have hgain : top ∈ N - M := by
    have := hcount top
    have := Multiset.count_pos.mpr htop
    rw [← Multiset.count_pos, Multiset.count_sub]
    omega
  refine ⟨M ∩ N, M - N, N - M, ?_, ?_, ?_, fun y hy => ⟨top, hgain, hbelow y ?_⟩⟩
  · intro hempty
    rw [hempty] at hgain
    exact Multiset.notMem_zero top hgain
  · rw [add_comm, Multiset.sub_add_inter]
  · rw [Multiset.inter_comm, add_comm, Multiset.sub_add_inter]
  · have := hcount y
    rw [← Multiset.count_pos, Multiset.count_sub] at hy
    rw [← Multiset.count_pos]
    omega

/-! ## What is left to do -/

/-- How much a task counts.  A schema counts for more than its parts and all else that it brings,
and for more than its pointers once it is registered. -/
def Task.weight : Task → Nat
  | .schema o => 3 * o.schema.extent + 2
  | .register _ document => 3 * document.extent + 1
  | .enter _ _ => 0
  | .refer _ _ _ => 3
  | .find _ => 1

/-- The resolver that has the documents of a list, by their addresses. -/
def Resolver.of (library : List (String × Json)) : Resolver := fun address => library.lookup address

/-- The addresses that a task is going to enter. -/
def Task.addresses : Task → List Address
  | .schema o => o.scopes.all.map (·.address)
  | .enter address _ => [address]
  | .register _ _ | .refer _ _ _ | .find _ => []

namespace Stage

/-- The addresses that are known: those in the index, and those that tasks are going to enter. -/
def addresses (s : Stage) : List Address := s.index.map (·.1) ++ s.agenda.flatMap Task.addresses

open scoped Classical in
/-- The pointers into a document under an address that are not known. -/
noncomputable def unknown (known : List Address) (address : String) (document : Json) :
    Finset String :=
  document.finite_pointers.toFinset.filter fun pointer => (address, pointer) ∉ known

/-- What the pointers into a registered document count. -/
noncomputable def pending (known : List Address) (entry : String × Json) : Multiset Nat :=
  Multiset.replicate (unknown known entry.1 entry.2).card (3 * entry.2.extent)

/-- What the documents outside count that are not registered. -/
def outside (library documents : List (String × Json)) : Multiset Nat :=
  (library.filter fun entry => (documents.lookup entry.1).isNone).map
    fun entry => 3 * entry.2.extent + 3

/-- What tasks count. -/
def work (agenda : List Task) : Multiset Nat := agenda.map Task.weight

/-- What waiting references count. -/
def delayed (waiting : List (Slot × Uri)) : Multiset Nat := Multiset.replicate waiting.length 2

/-- What registered documents count. -/
noncomputable def parts (known : List Address) (documents : List (String × Json)) : Multiset Nat :=
  (documents.map (pending known)).sum

/-- What counts at a stage besides the tasks, with the documents that there are outside. -/
noncomputable def stock (library : List (String × Json)) (s : Stage) : Multiset Nat :=
  delayed s.waiting + parts s.addresses s.documents + outside library s.documents

/-- **`s.measure library`** — what is left to do at a stage, with the documents that there are
outside. -/
noncomputable def measure (library : List (String × Json)) (s : Stage) : Multiset Nat :=
  work s.agenda + s.stock library

/-! ## The parts of the measure -/

variable {known later : List Address} {documents library : List (String × Json)}

theorem work_append (tasks rest : List Task) : work (tasks ++ rest) = work tasks + work rest := by
  simp [work]

theorem delayed_cons (entry : Slot × Uri) (rest : List (Slot × Uri)) :
    delayed (entry :: rest) = {2} + delayed rest := by
  simp [delayed, Multiset.replicate_succ]

theorem pending_le (hknown : known ⊆ later) (entry : String × Json) :
    pending later entry ≤ pending known entry := by
  refine (Multiset.replicate_le_replicate _).mpr (Finset.card_le_card ?_)
  exact Finset.monotone_filter_right _ fun pointer _ hpointer hmem => hpointer (hknown hmem)

/-- What becomes known does not count any more. -/
theorem parts_le (hknown : known ⊆ later) : parts later documents ≤ parts known documents := by
  induction documents with
  | nil => exact le_refl _
  | cons entry rest ih =>
      simp only [parts, List.map_cons, List.sum_cons]
      exact add_le_add (pending_le hknown entry) ih

/-- A pointer into a registered document that becomes known is taken off. -/
theorem parts_add_le (hknown : known ⊆ later) {entry : String × Json} (hentry : entry ∈ documents)
    {pointer : String} (hpointer : (entry.2.pointer? pointer).isSome)
    (hnew : (entry.1, pointer) ∉ known) (hlater : (entry.1, pointer) ∈ later) :
    parts later documents + {3 * entry.2.extent} ≤ parts known documents := by
  have hpending : pending later entry + {3 * entry.2.extent} ≤ pending known entry := by
    rw [pending, ← Multiset.replicate_one, ← Multiset.replicate_add]
    refine (Multiset.replicate_le_replicate _).mpr (Finset.card_lt_card ?_)
    refine Finset.ssubset_iff_subset_ne.mpr ⟨?_, fun heq => ?_⟩
    · exact Finset.monotone_filter_right _ fun pointer _ hpointer hmem => hpointer (hknown hmem)
    · have hmem : pointer ∈ unknown known entry.1 entry.2 := by
        simp [unknown, hpointer, hnew]
      rw [← heq] at hmem
      simp [unknown, hlater] at hmem
  induction documents with
  | nil => cases hentry
  | cons first rest ih =>
      simp only [parts, List.map_cons, List.sum_cons]
      rcases List.mem_cons.mp hentry with rfl | hrest
      · rw [add_right_comm]
        exact add_le_add hpending (parts_le hknown)
      · rw [add_assoc]
        exact add_le_add (pending_le hknown first) (ih hrest)

theorem outside_append (before behind : List (String × Json)) :
    outside (before ++ behind) documents = outside before documents + outside behind documents := by
  simp [outside]

theorem isNone_lookup_of_cons {address other : String} {document : Json}
    (h : (((address, document) :: documents).lookup other).isNone) :
    (documents.lookup other).isNone := by
  rw [List.lookup_cons] at h
  split at h
  · cases h
  · exact h

/-- What is registered does not count as outside any more. -/
theorem outside_cons_le (library : List (String × Json)) (address : String) (document : Json) :
    outside library ((address, document) :: documents) ≤ outside library documents := by
  refine Multiset.coe_le.mpr (List.Sublist.subperm (List.Sublist.map _ ?_))
  exact List.monotone_filter_right _ fun entry hentry => isNone_lookup_of_cons hentry

/-- A document from outside that is registered is taken off. -/
theorem outside_cons_add_le {address : String} {document : Json}
    (hlibrary : library.lookup address = some document) (hnew : documents.lookup address = none) :
    outside library ((address, document) :: documents) + {3 * document.extent + 3}
      ≤ outside library documents := by
  obtain ⟨before, behind, rfl, -⟩ := List.lookup_eq_some_iff.mp hlibrary
  have hold : outside [(address, document)] documents = {3 * document.extent + 3} := by
    simp only [outside, List.filter_cons, hnew]
    rfl
  have hgone : outside [(address, document)] ((address, document) :: documents) = 0 := by
    simp [outside]
  rw [List.append_cons, outside_append, outside_append, outside_append, outside_append, hold, hgone,
    add_zero, add_right_comm]
  exact add_le_add (add_le_add (outside_cons_le _ _ _) (le_refl _)) (outside_cons_le _ _ _)

/-! ## What stages keep -/

/-- Nothing is found before all other tasks are done. -/
def findsLast : List Task → Prop
  | [] => True
  | .find _ :: rest => rest = []
  | _ :: rest => findsLast rest

/-- **`s.Orderly`** — targets are looked for when nothing else is left to do, and the roots of
documents are known wherever these are registered or going to be. -/
structure Orderly (s : Stage) : Prop where
  last : findsLast s.agenda
  registered : ∀ entry ∈ s.documents, (entry.1, "") ∈ s.addresses
  registering : ∀ address document, .register address document ∈ s.agenda →
    (address, "") ∈ s.addresses

variable {resolver : Resolver} {s t : Stage}

theorem findsLast_append {tasks rest : List Task} (htasks : ∀ target, .find target ∉ tasks)
    (hrest : findsLast rest) : findsLast (tasks ++ rest) := by
  induction tasks with
  | nil => exact hrest
  | cons task tasks ih =>
      have htail := ih fun target hmem => htasks target (List.mem_cons_of_mem _ hmem)
      cases task with
      | find target => exact absurd List.mem_cons_self (htasks target)
      | schema | register | enter | refer => exact htail

theorem findsLast_tail {task : Task} {rest : List Task} (h : findsLast (task :: rest)) :
    findsLast rest := by
  cases task with
  | find target =>
      obtain rfl : rest = [] := h
      trivial
  | schema | register | enter | refer => exact h

/-! ## Known addresses -/

theorem mem_addresses {address : Address} :
    address ∈ s.addresses ↔ address ∈ s.index.map (·.1)
      ∨ ∃ task ∈ s.agenda, address ∈ task.addresses := by
  simp only [addresses, List.mem_append, List.mem_flatMap]

/-- Where the next task is done, its addresses have to be known, and all others stay. -/
theorem addresses_subset {task : Task} {rest : List Task} (hagenda : s.agenda = task :: rest)
    (hindex : s.index ⊆ t.index) (hrest : rest ⊆ t.agenda)
    (htask : ∀ address ∈ task.addresses, address ∈ t.addresses) : s.addresses ⊆ t.addresses := by
  intro address haddress
  rcases mem_addresses.mp haddress with hentry | ⟨other, hother, hin⟩
  · exact mem_addresses.mpr (.inl (List.map_subset _ hindex hentry))
  · rw [hagenda] at hother
    rcases List.mem_cons.mp hother with rfl | hother
    · exact htask address hin
    · exact mem_addresses.mpr (.inr ⟨other, hrest hother, hin⟩)

theorem mem_inner {o : Origin} {identity : Identity} {scope : Scope} (h : scope ∈ o.scopes.all) :
    scope ∈ (o.inner identity).all := by
  cases identity with
  | absent | place => exact h
  | document base => exact List.mem_append_left _ h

theorem enter_mem_tasks {o : Origin} (slot : Slot) {identity : Identity} {scope : Scope}
    (h : scope ∈ (o.inner identity).all) : .enter scope.address slot ∈ o.tasks slot identity :=
  List.mem_append_right _ (List.mem_append_left _ (List.mem_map_of_mem h))

/-- What the index does not have when only a target is to be found, is not known. -/
theorem notMem_addresses {target : Uri} {address : Address} (hagenda : s.agenda = [.find target])
    (hindex : s.index.lookup address = none) : address ∉ s.addresses := by
  intro haddress
  rcases mem_addresses.mp haddress with hentry | ⟨task, htask, hin⟩
  · obtain ⟨entry, hmem, rfl⟩ := List.mem_map.mp hentry
    simpa using List.lookup_eq_none_iff.mp hindex entry hmem
  · rw [hagenda] at htask
    obtain rfl := List.mem_singleton.mp htask
    cases hin

/-- What is known stays known. -/
theorem Step.addresses_subset (h : Step resolver s t) : s.addresses ⊆ t.addresses := by
  cases h with
  | @schema o identity rest hagenda hidentity =>
      refine Stage.addresses_subset hagenda (List.Subset.refl _) (List.subset_append_right _ _) ?_
      intro address haddress
      obtain ⟨scope, hscope, rfl⟩ := List.mem_map.mp haddress
      exact mem_addresses.mpr (.inr ⟨.enter scope.address s.origins.length,
        List.mem_append_left _ (enter_mem_tasks _ (mem_inner hscope)), List.mem_singleton_self _⟩)
  | registered hagenda _ | register hagenda _ | refer hagenda _ | found hagenda _ =>
      exact Stage.addresses_subset hagenda (List.Subset.refl _) (List.Subset.refl _)
        fun _ h => nomatch h
  | @enter address slot rest hagenda =>
      refine Stage.addresses_subset hagenda (List.subset_cons_self _ _) (List.Subset.refl _) ?_
      intro other hother
      obtain rfl := List.mem_singleton.mp hother
      exact mem_addresses.mpr (.inl List.mem_cons_self)
  | part hagenda _ _ _ =>
      exact Stage.addresses_subset hagenda (List.Subset.refl _) (List.subset_cons_self _ _)
        fun _ h => nomatch h
  | load hagenda _ _ _ =>
      refine Stage.addresses_subset hagenda (List.Subset.refl _) ?_ fun _ h => nomatch h
      exact fun task htask => List.mem_cons_of_mem _ (List.mem_cons_of_mem _ htask)
  | settle hagenda _ =>
      intro address haddress
      rcases mem_addresses.mp haddress with hentry | ⟨task, htask, -⟩
      · exact mem_addresses.mpr (.inl hentry)
      · rw [hagenda] at htask
        cases htask

/-- A schema that is going to be compiled makes its places known. -/
theorem mem_addresses_of_schema (base : Uri) {o : Origin} {rest : List Task} {pointer : String}
    (hagenda : t.agenda = .schema o :: rest)
    (hscopes : o.scopes = ⟨⟨base.withoutFragment, pointer⟩, []⟩) :
    (base.withoutFragment.toText, pointer) ∈ t.addresses := by
  refine mem_addresses.mpr (.inr ⟨.schema o, hagenda ▸ List.mem_cons_self, ?_⟩)
  simp [Task.addresses, hscopes, Scopes.all, Scope.address, withoutFragment_withoutFragment]

theorem orderly_start (document : Json) : (start document).Orderly := by
  refine ⟨trivial, ?_, fun address document h => ?_⟩
  · exact List.forall_mem_singleton.mpr (mem_addresses_of_schema defaultBase rfl rfl)
  · cases List.mem_singleton.mp h

/-- **`Orderly.step`** — steps keep stages in order. -/
theorem Orderly.step (hs : s.Orderly) (h : Step resolver s t) : t.Orderly := by
  have hregistered : ∀ entry ∈ s.documents, (entry.1, "") ∈ t.addresses := fun entry hentry =>
    h.addresses_subset (hs.registered entry hentry)
  have hregistering : ∀ address document, .register address document ∈ s.agenda →
      (address, "") ∈ t.addresses := fun address document hmem =>
    h.addresses_subset (hs.registering address document hmem)
  have hlast := hs.last
  cases h with
  | @schema o identity rest hagenda hidentity =>
      rw [hagenda] at hlast
      refine ⟨findsLast_append (fun target hmem => ?_) (findsLast_tail hlast), hregistered, ?_⟩
      · rcases Origin.mem_tasks hmem with ⟨_, _, h⟩ | ⟨_, _, h⟩ | ⟨_, _, h⟩ | ⟨_, _, h⟩ | ⟨_, h⟩ <;>
          cases h
      · intro address document hmem
        rcases List.mem_append.mp hmem with hnew | hold
        · rcases Origin.mem_tasks hnew with
            ⟨_, _, h⟩ | ⟨base, hbase, h⟩ | ⟨_, _, h⟩ | ⟨_, _, h⟩ | ⟨_, h⟩
          case inr.inl =>
            obtain ⟨rfl, rfl⟩ := Task.register.inj h
            subst hbase
            have hin : ⟨base, ""⟩ ∈ (o.inner (.document base)).all := by
              simp [Origin.inner, Scopes.all_openDocument]
            refine mem_addresses.mpr (.inr ⟨_, List.mem_append_left _
              (enter_mem_tasks s.origins.length hin), ?_⟩)
            have hbase := Origin.withoutFragment_of_identity? hidentity
            simp [Task.addresses, Scope.address, hbase]
          all_goals cases h
        · exact hregistering address document (hagenda ▸ List.mem_cons_of_mem _ hold)
  | registered hagenda _ | enter hagenda | refer hagenda _ | found hagenda _ =>
      rw [hagenda] at hlast
      exact ⟨findsLast_tail hlast, hregistered, fun address document hmem =>
        hregistering address document (hagenda ▸ List.mem_cons_of_mem _ hmem)⟩
  | register hagenda _ =>
      rw [hagenda] at hlast
      refine ⟨findsLast_tail hlast, List.forall_mem_cons.mpr ⟨?_, hregistered⟩, fun _ _ hmem =>
        hregistering _ _ (hagenda ▸ List.mem_cons_of_mem _ hmem)⟩
      exact hregistering _ _ (hagenda ▸ List.mem_cons_self)
  | part hagenda _ _ _ =>
      rw [hagenda] at hlast
      obtain rfl := hlast
      refine ⟨trivial, hregistered, fun address document hmem => ?_⟩
      cases List.mem_singleton.mp hmem
  | load hagenda _ _ _ =>
      rw [hagenda] at hlast
      obtain rfl := hlast
      refine ⟨rfl, List.forall_mem_cons.mpr ⟨mem_addresses_of_schema _ rfl rfl, hregistered⟩, ?_⟩
      intro address document hmem
      simp at hmem
  | settle hagenda _ =>
      refine ⟨rfl, hregistered, fun address document hmem => ?_⟩
      cases List.mem_singleton.mp hmem

/-! ## Steps -/

theorem pending_lt (known : List Address) (entry : String × Json) {bound : Nat}
    (hbound : 3 * entry.2.extent < bound) : ∀ n ∈ pending known entry, n < bound := by
  intro n hn
  rw [Multiset.eq_of_mem_replicate hn]
  exact hbound

theorem weight_lt_of_mem_tasks {o : Origin} {slot : Slot} {identity : Identity} {task : Task}
    (h : task ∈ o.tasks slot identity) : task.weight < 3 * o.schema.extent + 2 := by
  have hpos := o.schema.extent_pos
  rcases Origin.mem_tasks h with
    ⟨_, _, rfl⟩ | ⟨_, _, rfl⟩ | ⟨_, _, rfl⟩ | ⟨child, hchild, rfl⟩ | ⟨_, rfl⟩ <;>
    simp only [Task.weight]
  case inr.inr.inr.inl =>
    have := extent_lt_of_mem_children hchild
    omega
  all_goals omega

/-- A step does some tasks and brings others, and exchanges some of the stock. -/
theorem measure_lt {library : List (String × Json)} (old tasks : List Task) {rest : List Task}
    {Y Z : Multiset Nat} (hold : s.agenda = old ++ rest) (htasks : t.agenda = tasks ++ rest)
    (hstock : t.stock library + Z ≤ s.stock library + Y) (hsome : work old + Z ≠ 0)
    (hlt : ∀ y ∈ work tasks + Y, ∃ z ∈ work old + Z, y < z) :
    (t.measure library).IsDershowitzMannaLT (s.measure library) := by
  refine isDershowitzMannaLT_of_add_le ?_ hsome hlt
  rw [measure, measure, hold, htasks, work_append, work_append]
  calc work tasks + work rest + t.stock library + (work old + Z)
      = work old + work rest + work tasks + (t.stock library + Z) := by abel
    _ ≤ work old + work rest + work tasks + (s.stock library + Y) :=
        add_le_add (le_refl _) hstock
    _ = _ := by abel

/-- Tasks that count less take the place of one task. -/
theorem measure_lt_of_weight {library : List (String × Json)} {task : Task} (tasks : List Task)
    {rest : List Task} (hagenda : s.agenda = task :: rest) (htasks : t.agenda = tasks ++ rest)
    (hstock : t.stock library ≤ s.stock library) (hlt : ∀ new ∈ tasks, new.weight < task.weight) :
    (t.measure library).IsDershowitzMannaLT (s.measure library) := by
  refine measure_lt [task] tasks (Y := 0) (Z := 0) hagenda htasks (by simpa using hstock)
    (by simp [work]) fun y hy => ⟨task.weight, by simp [work], ?_⟩
  obtain ⟨new, hnew, rfl⟩ : ∃ new ∈ tasks, new.weight = y := by simpa [work] using hy
  exact hlt new hnew

/-- The stock changes as the waiting references do, where no document is registered. -/
theorem stock_add_le {library : List (String × Json)} {Y Z : Multiset Nat}
    (hknown : s.addresses ⊆ t.addresses) (hdocuments : t.documents = s.documents)
    (hwaiting : delayed t.waiting + Z ≤ delayed s.waiting + Y) :
    t.stock library + Z ≤ s.stock library + Y := by
  unfold stock
  rw [hdocuments]
  calc delayed t.waiting + parts t.addresses s.documents + outside library s.documents + Z
      = delayed t.waiting + Z + parts t.addresses s.documents
        + outside library s.documents := by abel
    _ ≤ delayed s.waiting + Y + parts s.addresses s.documents + outside library s.documents :=
        add_le_add (add_le_add hwaiting (parts_le hknown)) (le_refl _)
    _ = _ := by abel

/-- The stock gets no bigger where only addresses become known. -/
theorem stock_le {library : List (String × Json)} (hknown : s.addresses ⊆ t.addresses)
    (hdocuments : t.documents = s.documents) (hwaiting : t.waiting = s.waiting) :
    t.stock library ≤ s.stock library := by
  simpa using stock_add_le (Y := 0) (Z := 0) hknown hdocuments (by rw [hwaiting])

/-- The stock gets less where a pointer into a registered document becomes known. -/
theorem stock_pointer_le {library : List (String × Json)} (hknown : s.addresses ⊆ t.addresses)
    (hdocuments : t.documents = s.documents) (hwaiting : t.waiting = s.waiting)
    {entry : String × Json} (hentry : entry ∈ s.documents) {pointer : String}
    (hpointer : (entry.2.pointer? pointer).isSome) (hnew : (entry.1, pointer) ∉ s.addresses)
    (hlater : (entry.1, pointer) ∈ t.addresses) :
    t.stock library + {3 * entry.2.extent} ≤ s.stock library := by
  unfold stock
  rw [hdocuments, hwaiting, add_right_comm, add_assoc (delayed _)]
  exact add_le_add (add_le_add (le_refl _) (parts_add_le hknown hentry hpointer hnew hlater))
    (le_refl _)

/-- A document that is registered counts for its pointers, and not as outside any more. -/
theorem stock_register_le {library : List (String × Json)} {address : String} {document : Json}
    {Z : Multiset Nat} (hknown : s.addresses ⊆ t.addresses) (hwaiting : t.waiting = s.waiting)
    (hdocuments : t.documents = (address, document) :: s.documents)
    (hgone : outside library ((address, document) :: s.documents) + Z
      ≤ outside library s.documents) :
    t.stock library + Z ≤ s.stock library + pending t.addresses (address, document) := by
  unfold stock
  rw [hwaiting, hdocuments, parts, List.map_cons, List.sum_cons]
  calc delayed s.waiting + (pending t.addresses (address, document)
        + parts t.addresses s.documents)
        + outside library ((address, document) :: s.documents) + Z
      = delayed s.waiting + parts t.addresses s.documents
        + (outside library ((address, document) :: s.documents) + Z)
        + pending t.addresses (address, document) := by abel
    _ ≤ delayed s.waiting + parts s.addresses s.documents + outside library s.documents
        + pending t.addresses (address, document) :=
        add_le_add (add_le_add (add_le_add (le_refl _) (parts_le hknown)) hgone) (le_refl _)

/-- **`Step.measure_lt`** — a step of a compilation whose resolver has finitely many documents
leaves less to do. -/
theorem Step.measure_lt {library : List (String × Json)} (hs : s.Orderly)
    (h : Step (.of library) s t) :
    (t.measure library).IsDershowitzMannaLT (s.measure library) := by
  have hknown := h.addresses_subset
  cases h with
  | @schema o identity rest hagenda _ =>
      exact measure_lt_of_weight _ hagenda rfl (stock_le hknown rfl rfl) fun task =>
        weight_lt_of_mem_tasks
  | registered hagenda _ | enter hagenda | found hagenda _ =>
      exact measure_lt_of_weight [] hagenda rfl (stock_le hknown rfl rfl) (by simp)
  | @refer slot base target reference rest hagenda _ =>
      have hstock : _ ≤ s.stock library + {2} := stock_add_le (Z := 0) hknown rfl
        (by rw [delayed_cons, add_zero, add_comm])
      exact Stage.measure_lt [_] [] hagenda rfl hstock (by simp [work])
        (by simp [work, Task.weight])
  | @register address document rest hagenda hnew =>
      -- Each pointer into the document counts less than the task.
      have hstock := stock_register_le (Z := 0) hknown rfl rfl
        (by simpa using outside_cons_le library address document)
      refine Stage.measure_lt [_] [] hagenda rfl hstock (by simp [work]) fun y hy => ?_
      refine ⟨3 * document.extent + 1, by simp [work, Task.weight], ?_⟩
      exact pending_lt _ (address, document) (Nat.lt_succ_self _) y (by simpa [work] using hy)
  | @part target document schema rest hagenda hindex hdocument hpointer =>
      -- Nothing else is on the agenda, so what is known is in the index.
      have hlast := hs.last
      rw [hagenda] at hlast
      obtain rfl : rest = [] := hlast
      have hnew : (target.withoutFragment.toText, target.decodedFragment) ∉ s.addresses :=
        notMem_addresses hagenda hindex
      obtain ⟨before, behind, hentries, -⟩ := List.lookup_eq_some_iff.mp hdocument
      have hentry : (target.withoutFragment.toText, document) ∈ s.documents := by simp [hentries]
      -- The root of the document is known, so the pointer leads below it.
      have hbelow : target.decodedFragment ≠ "" := fun hempty =>
        hnew (hempty ▸ hs.registered _ hentry)
      have hextent := Json.extent_lt_of_pointer? hpointer hbelow
      have hstock : Stage.stock library _ + _ ≤ _ := stock_pointer_le hknown rfl rfl hentry
        (by simp [hpointer]) hnew (mem_addresses_of_schema target rfl rfl)
      refine Stage.measure_lt [_] [_] hagenda rfl (Y := 0) (by simpa using hstock) (by simp [work])
        fun y hy => ⟨3 * document.extent, by simp, ?_⟩
      simp only [work, Multiset.mem_coe, List.map_cons, List.map_nil, List.mem_singleton,
        Task.weight, add_zero] at hy
      omega
  | @load target document rest hagenda hindex hnew hlibrary =>
      have hstock := stock_register_le hknown rfl rfl (outside_cons_add_le hlibrary hnew)
      refine Stage.measure_lt [_] [_, _] hagenda rfl hstock (by simp) fun y hy =>
        ⟨3 * document.extent + 3, by simp, ?_⟩
      rcases Multiset.mem_add.mp hy with htask | hpending
      · simp only [work, Multiset.mem_coe, List.map_cons, List.map_nil, List.mem_cons,
          List.not_mem_nil, or_false, Task.weight] at htask
        omega
      · exact pending_lt _ (target.withoutFragment.toText, document) (by simp) y hpending
  | @settle slot target rest hagenda hwaiting =>
      have hstock : _ ≤ s.stock library + 0 := stock_add_le (Z := {2}) hknown rfl
        (by rw [hwaiting, delayed_cons, add_zero, add_comm])
      exact Stage.measure_lt [] [_] hagenda rfl hstock (by simp) (by simp [work, Task.weight])

end Stage

end JsonQuery.Schema
