import Mathlib.Data.List.Nodup
import Mathlib.Order.Lattice
import BuildRegistry.Paging

/-
  Walking through a listing page by page. Rows have keys that order them, and a cursor marks the
  key after which the next page starts (`Serves`). `follow` asks for page after page, each time in
  the state it finds then, and stops at the page that has no more. Whatever happens to the states
  in between, the keys it meets ascend, no entry that stays is passed over, pages have the size that
  was asked for (`Page.Sized`), and `hasMore` tells whether there is a further entry (`Traversal`).
  In a state that does not change, the pages hold its rows one after the other (`Enumerates`). The
  page boundaries enter only through the lemmas on `Page.ofRows`.
-/

namespace BuildRegistry

/-! ## One page of ascending rows -/

section Pages

variable {α κ : Type} [LinearOrder κ] {key : α → κ} {cursorOf : α → String} {size : Nat}
  {rows : List α} {x y : α}

/-- Rows in strictly ascending order of their keys. -/
def Ascending (key : α → κ) (rows : List α) : Prop := rows.Pairwise fun x y => key x < key y

theorem PageRequest.pageSize_pos (p : PageRequest) : 0 < p.pageSize := by
  unfold pageSize
  omega

theorem PageRequest.coe_pageSize (p : PageRequest) :
    (p.pageSize : Int) = max 1 (min 100 (p.limit.getD 20)) := by
  unfold pageSize maxLimit defaultLimit
  omega

namespace Page

/-- A page of the size that was asked for: a limit is brought between 1 and 100, and without one the
limit is 20. A page that has more to come is full. -/
structure Sized (limit : Option Int) (page : Page α) : Prop where
  bounded : (page.data.length : Int) ≤ max 1 (min 100 (limit.getD 20))
  full : page.hasMore = true → (page.data.length : Int) = max 1 (min 100 (limit.getD 20))

theorem data_sublist : (ofRows size cursorOf rows).data.Sublist rows := List.take_sublist _ _

theorem length_data_le : (ofRows size cursorOf rows).data.length ≤ size :=
  List.length_take_le _ _

theorem hasMore_iff : (ofRows size cursorOf rows).hasMore = true ↔ size < rows.length :=
  decide_eq_true_iff

theorem sized_ofRows (p : PageRequest) (cursorOf : α → String) (rows : List α) :
    (ofRows p.pageSize cursorOf rows).Sized p.limit where
  bounded := by
    rw [← p.coe_pageSize]
    exact Int.ofNat_le.2 length_data_le
  full := by
    intro hmore
    have hlt : p.pageSize < rows.length := hasMore_iff.1 hmore
    have hlength : (ofRows p.pageSize cursorOf rows).data.length = p.pageSize :=
      List.length_take_of_le hlt.le
    rw [← p.coe_pageSize, hlength]

theorem data_eq_of_not_hasMore (h : (ofRows size cursorOf rows).hasMore = false) :
    (ofRows size cursorOf rows).data = rows :=
  List.take_of_length_le (Nat.le_of_not_lt (of_decide_eq_false h))

/-- A page with more to come ends with the row that its cursor is made of. -/
theorem exists_last (hsize : 0 < size) (h : (ofRows size cursorOf rows).hasMore = true) :
    ∃ x, (ofRows size cursorOf rows).data.getLast? = some x ∧
      (ofRows size cursorOf rows).nextCursor = some (cursorOf x) := by
  have hlt : size < rows.length := hasMore_iff.1 h
  have hne : rows.take size ≠ [] := by
    rw [← List.length_pos_iff, List.length_take]
    omega
  refine ⟨(rows.take size).getLast hne, List.getLast?_eq_some_getLast hne, ?_⟩
  change (if decide (size < rows.length) = true then _ else _) = _
  rw [if_pos (decide_eq_true hlt), List.getLast?_eq_some_getLast hne]
  rfl

theorem nextCursor_isSome (hsize : 0 < size) :
    (ofRows size cursorOf rows).nextCursor.isSome = (ofRows size cursorOf rows).hasMore := by
  cases h : (ofRows size cursorOf rows).hasMore with
  | true =>
    obtain ⟨x, -, hx⟩ := exists_last hsize h
    rw [hx]
    rfl
  | false =>
    change (if (ofRows size cursorOf rows).hasMore = true then _ else none).isSome = false
    rw [h]
    rfl

/-- What a page leaves out comes after all that it holds. -/
theorem lt_of_not_mem_data (hrows : Ascending key rows)
    (hx : x ∈ (ofRows size cursorOf rows).data) (hy : y ∈ rows)
    (hn : y ∉ (ofRows size cursorOf rows).data) : key x < key y := by
  rw [Ascending, ← List.take_append_drop size rows, List.pairwise_append] at hrows
  rw [← List.take_append_drop size rows, List.mem_append] at hy
  exact hrows.2.2 x hx y (hy.resolve_left hn)

theorem exists_beyond (hrows : Ascending key rows)
    (h : (ofRows size cursorOf rows).hasMore = true) :
    ∃ y ∈ rows, ∀ x ∈ (ofRows size cursorOf rows).data, key x < key y := by
  have hlt : size < rows.length := hasMore_iff.1 h
  have hdrop : rows[size] ∈ rows.drop size := by
    rw [List.drop_eq_getElem_cons hlt]
    exact List.mem_cons_self
  rw [Ascending, ← List.take_append_drop size rows, List.pairwise_append] at hrows
  exact ⟨rows[size], List.getElem_mem hlt, fun x hx => hrows.2.2 x hx _ hdrop⟩

theorem le_last (hrows : Ascending key rows) (hlast : rows.getLast? = some x) (hy : y ∈ rows) :
    key y ≤ key x := by
  obtain ⟨init, rfl⟩ := List.getLast?_eq_some_iff.1 hlast
  rcases List.mem_append.1 hy with hy | hy
  · exact le_of_lt ((List.pairwise_append.1 hrows).2.2 y hy x (List.mem_singleton_self x))
  · rw [List.mem_singleton.1 hy]

end Page

end Pages

/-! ## From page to page -/

/-- A visit of a client: the state it meets, and the limit it asks for. -/
structure Visit (σ : Type) where
  state : σ
  limit : Option Int

def Visit.request {σ : Type} (v : Visit σ) (cursor : Option String) : PageRequest :=
  ⟨cursor, v.limit⟩

section Traversal

variable {σ ε α κ : Type}

/-- The pages that a client gets that starts at a cursor and goes on with the next page as long as
there is one, each with its visit. -/
def follow (ask : σ → PageRequest → Except ε (Page α)) :
    Option String → List (Visit σ) → Except ε (List (Visit σ × Page α))
  | _, [] => .ok []
  | cursor, v :: rest => do
    let page ← ask v.state (v.request cursor)
    if page.hasMore then return (v, page) :: (← follow ask page.nextCursor rest)
    else return [(v, page)]

/-- All that the pages hold, one after the other. -/
def entries (answers : List (Visit σ × Page α)) : List α := answers.flatMap (·.2.data)

/-- The last page said that there is no more. -/
def Finished (answers : List (Visit σ × Page α)) : Prop :=
  ∃ a, answers.getLast? = some a ∧ a.2.hasMore = false

variable [LinearOrder κ]

/-- What a client can rely on that walks through a listing. `listed s k` says that the state `s`
has an entry with the key `k`. -/
structure Traversal (listed : σ → κ → Prop) (key : α → κ) (visits : List (Visit σ))
    (answers : List (Visit σ × Page α)) : Prop where
  visited : answers.map (·.1) <+: visits ∧ (Finished answers ∨ answers.map (·.1) = visits)
  ascending : Ascending key (entries answers)
  sound : ∀ a ∈ answers, ∀ x ∈ a.2.data, listed a.1.state (key x)
  sized : ∀ a ∈ answers, a.2.Sized a.1.limit
  cursor : ∀ a ∈ answers, a.2.nextCursor.isSome = a.2.hasMore
  more : ∀ before a later, answers = before ++ a :: later → (a.2.hasMore = true ↔
    ∃ k, listed a.1.state k ∧ ∀ x ∈ entries (before ++ [a]), key x < k)
  complete : Finished answers → ∀ k, (∀ a ∈ answers, listed a.1.state k) →
    ∃ x ∈ entries answers, key x = k

/-- If what is met of the entries of the first state does not fit on the first page, that page is
cut after as many as were asked for. -/
theorem Traversal.cut {listed : σ → κ → Prop} {key : α → κ} {visits : List (Visit σ)}
    {answers rest : List (Visit σ × Page α)} {a : Visit σ × Page α}
    (h : Traversal listed key visits answers) (hfirst : answers = a :: rest)
    (hlisted : ∀ x ∈ entries answers, listed a.1.state (key x))
    (hlong : max 1 (min 100 (a.1.limit.getD 20)) < ((entries answers).length : Int)) :
    a.2.hasMore = true ∧
      a.2.data = (entries answers).take (max 1 (min 100 (a.1.limit.getD 20))).toNat := by
  have ha : a ∈ answers := hfirst ▸ List.mem_cons_self
  have hentries : entries answers = a.2.data ++ entries rest := by rw [hfirst]; rfl
  have hbounded := (h.sized a ha).bounded
  have hrest : entries rest ≠ [] := by
    intro hnil
    rw [hentries, hnil, List.append_nil] at hlong
    omega
  obtain ⟨z, hz⟩ := List.exists_mem_of_ne_nil _ hrest
  have hascending := h.ascending
  rw [Ascending, hentries] at hascending
  have hmore : a.2.hasMore = true := by
    refine (h.more [] a rest hfirst).2 ⟨key z, hlisted z ?_, fun x hx => ?_⟩
    · exact hentries ▸ List.mem_append_right _ hz
    · rw [List.nil_append, entries, List.flatMap_singleton] at hx
      exact (List.pairwise_append.1 hascending).2.2 x hx z hz
  refine ⟨hmore, ?_⟩
  rw [hentries, ← (h.sized a ha).full hmore, Int.toNat_natCast, List.take_left]

/-- The rows that come after a key. -/
def rowsAfter (key : α → κ) (after : Option κ) (rows : List α) : List α :=
  rows.filter fun x => after.all (· < key x)

/-- The key that a cursor stands for: none at the start, then that of a row which was there in
some good state. -/
inductive Marks (good : σ → Prop) (rows : σ → List α) (key : α → κ) (cursorOf : α → String) :
    Option String → Option κ → Prop where
  | start : Marks good rows key cursorOf none none
  | row {s : σ} {x : α} : good s → x ∈ rows s →
    Marks good rows key cursorOf (some (cursorOf x)) (some (key x))

/-- The listing answers every request with the rows after the key that its cursor marks. -/
structure Serves (ask : σ → PageRequest → Except ε (Page α)) (good : σ → Prop)
    (rows : σ → List α) (key : α → κ) (cursorOf : α → String) : Prop where
  ascending : ∀ s, good s → Ascending key (rows s)
  answers : ∀ s p after, good s → Marks good rows key cursorOf p.cursor after →
    ask s p = .ok (Page.ofRows p.pageSize cursorOf (rowsAfter key after (rows s)))

omit [LinearOrder κ] in
theorem Marks.mono {good good' : σ → Prop} {rows : σ → List α} {key : α → κ}
    {cursorOf : α → String} {cursor : Option String} {after : Option κ}
    (h : Marks good' rows key cursorOf cursor after) (hgood : ∀ s, good' s → good s) :
    Marks good rows key cursorOf cursor after := by
  cases h with
  | start => exact .start
  | row hs hx => exact .row (hgood _ hs) hx

/-- A listing that answers what another answers wherever that does, for some of its states. -/
theorem Serves.of_ok {ε' : Type} {ask : σ → PageRequest → Except ε (Page α)}
    {ask' : σ → PageRequest → Except ε' (Page α)} {good good' : σ → Prop} {rows : σ → List α}
    {key : α → κ} {cursorOf : α → String} (h : Serves ask good rows key cursorOf)
    (hgood : ∀ s, good' s → good s)
    (hask : ∀ s p page, good' s → ask s p = .ok page → ask' s p = .ok page) :
    Serves ask' good' rows key cursorOf where
  ascending s hs := h.ascending s (hgood s hs)
  answers s p after hs hmarks :=
    hask s p _ hs (h.answers s p after (hgood s hs) (hmarks.mono hgood))

/-! ## Walks over ascending rows -/

variable {rows : σ → List α} {key : α → κ} {cursorOf : α → String} {after : Option κ}
  {v : Visit σ} {visits : List (Visit σ)} {answers : List (Visit σ × Page α)} {x y : α}

theorem all_lt_trans {k l : κ} (hk : after.all (· < k)) (hkl : k < l) : after.all (· < l) := by
  cases after with
  | none => rfl
  | some j => simpa using lt_trans (by simpa using hk) hkl

theorem mem_rowsAfter {l : List α} :
    x ∈ rowsAfter key after l ↔ x ∈ l ∧ after.all (· < key x) := List.mem_filter

theorem rowsAfter_none (l : List α) : rowsAfter key none l = l :=
  List.filter_eq_self.2 fun _ _ => rfl

theorem ascending_rowsAfter {l : List α} (h : Ascending key l) :
    Ascending key (rowsAfter key after l) := h.sublist List.filter_sublist

/-- What comes after a row is what comes after it among the rows it was found with. -/
theorem rowsAfter_of_mem {l : List α} (hx : after.all (· < key x)) :
    rowsAfter key (some (key x)) l = (rowsAfter key after l).filter fun y => key x < key y := by
  rw [rowsAfter, rowsAfter, List.filter_filter]
  refine List.filter_congr fun y _ => ?_
  by_cases hxy : key x < key y <;> simp [hxy]
  simpa using all_lt_trans hx hxy

/-- The page that a visit is given after a key. -/
def pageAt (rows : σ → List α) (key : α → κ) (cursorOf : α → String) (after : Option κ)
    (v : Visit σ) : Page α :=
  Page.ofRows (v.request none).pageSize cursorOf (rowsAfter key after (rows v.state))

/-- The pages of a client that started after a key, visit by visit. -/
inductive Walk (rows : σ → List α) (key : α → κ) (cursorOf : α → String) :
    Option κ → List (Visit σ) → List (Visit σ × Page α) → Prop where
  | stopped (after : Option κ) : Walk rows key cursorOf after [] []
  | last {after : Option κ} {v : Visit σ} (rest : List (Visit σ))
    (hmore : (pageAt rows key cursorOf after v).hasMore = false) :
    Walk rows key cursorOf after (v :: rest) [(v, pageAt rows key cursorOf after v)]
  | more {after : Option κ} {v : Visit σ} {rest : List (Visit σ)} {x : α}
    {answers : List (Visit σ × Page α)}
    (hmore : (pageAt rows key cursorOf after v).hasMore = true)
    (hlast : (pageAt rows key cursorOf after v).data.getLast? = some x)
    (hrest : Walk rows key cursorOf (some (key x)) rest answers) :
    Walk rows key cursorOf after (v :: rest) ((v, pageAt rows key cursorOf after v) :: answers)

/-- Following the cursors of a listing never fails, and is a walk over its rows. -/
theorem Serves.follow {ask : σ → PageRequest → Except ε (Page α)} {good : σ → Prop}
    (h : Serves ask good rows key cursorOf) {cursor : Option String}
    (hmarks : Marks good rows key cursorOf cursor after) (hgood : ∀ v ∈ visits, good v.state) :
    ∃ answers, follow ask cursor visits = .ok answers ∧
      Walk rows key cursorOf after visits answers := by
  induction visits generalizing cursor after with
  | nil => exact ⟨[], rfl, .stopped after⟩
  | cons v rest ih =>
    obtain ⟨hv, hrest⟩ := List.forall_mem_cons.1 hgood
    have hask : ask v.state (v.request cursor) = .ok (pageAt rows key cursorOf after v) :=
      h.answers _ _ _ hv hmarks
    rw [BuildRegistry.follow, hask]
    cases hmore : (pageAt rows key cursorOf after v).hasMore with
    | false =>
      refine ⟨_, ?_, .last rest hmore⟩
      change (if (pageAt rows key cursorOf after v).hasMore = true then _ else _) = _
      rw [hmore]
      rfl
    | true =>
      obtain ⟨x, hlast, hcursor⟩ := Page.exists_last (PageRequest.pageSize_pos _) hmore
      have hx := Page.data_sublist.mem (List.mem_of_getLast? hlast)
      obtain ⟨answers, hfollow, hwalk⟩ := ih (.row hv (mem_rowsAfter.1 hx).1) hrest
      refine ⟨_, ?_, .more hmore hlast hwalk⟩
      change (if (pageAt rows key cursorOf after v).hasMore = true then
        (BuildRegistry.follow ask (pageAt rows key cursorOf after v).nextCursor rest >>= fun as =>
          pure ((v, pageAt rows key cursorOf after v) :: as)) else _) = _
      rw [if_pos hmore, show (pageAt rows key cursorOf after v).nextCursor = _ from hcursor,
        hfollow]
      rfl

theorem mem_pageAt (hx : x ∈ (pageAt rows key cursorOf after v).data) :
    x ∈ rows v.state ∧ after.all (· < key x) := mem_rowsAfter.1 (Page.data_sublist.mem hx)

namespace Walk

theorem page (h : Walk rows key cursorOf after visits answers) {a : Visit σ × Page α}
    (ha : a ∈ answers) : ∃ after', a.2 = pageAt rows key cursorOf after' a.1 := by
  induction h with
  | stopped => cases ha
  | last rest hmore =>
    obtain rfl := List.mem_singleton.1 ha
    exact ⟨_, rfl⟩
  | more hmore hlast hrest ih =>
    rcases List.mem_cons.1 ha with rfl | ha
    · exact ⟨_, rfl⟩
    · exact ih ha

theorem sized (h : Walk rows key cursorOf after visits answers) {a : Visit σ × Page α}
    (ha : a ∈ answers) : a.2.Sized a.1.limit := by
  obtain ⟨after', heq⟩ := h.page ha
  rw [heq]
  exact Page.sized_ofRows (a.1.request none) cursorOf _

theorem visited (h : Walk rows key cursorOf after visits answers) :
    answers.map (·.1) <+: visits ∧ (Finished answers ∨ answers.map (·.1) = visits) := by
  induction h with
  | stopped => exact ⟨List.prefix_rfl, .inr rfl⟩
  | last rest hmore => exact ⟨List.prefix_append [_] rest, .inl ⟨_, rfl, hmore⟩⟩
  | more hmore hlast hrest ih =>
    rw [List.map_cons]
    refine ⟨(List.prefix_cons_inj _).2 ih.1, ih.2.imp ?_ fun heq => by rw [heq]⟩
    rintro ⟨a, ha, hno⟩
    exact ⟨a, by rw [List.getLast?_cons, ha]; rfl, hno⟩

/-- A walk goes past the key it starts after. -/
theorem after_lt (h : Walk rows key cursorOf after visits answers) :
    ∀ x ∈ entries answers, after.all (· < key x) := by
  induction h with
  | stopped => exact fun x hx => by cases hx
  | last rest hmore =>
    intro x hx
    rw [entries, List.flatMap_singleton] at hx
    exact (mem_pageAt hx).2
  | @more after v rest z answers hmore hlast hrest ih =>
    intro x hx
    rw [entries, List.flatMap_cons, List.mem_append] at hx
    rcases hx with hx | hx
    · exact (mem_pageAt hx).2
    · exact all_lt_trans (mem_pageAt (List.mem_of_getLast? hlast)).2 (by simpa using ih x hx)

variable (hasc : ∀ v ∈ visits, Ascending key (rows v.state))
include hasc

theorem ascending (h : Walk rows key cursorOf after visits answers) :
    Ascending key (entries answers) := by
  have hdata : ∀ {v : Visit σ} {after : Option κ}, Ascending key (rows v.state) →
      Ascending key (pageAt rows key cursorOf after v).data := fun hv =>
    (ascending_rowsAfter hv).sublist Page.data_sublist
  induction h with
  | stopped => exact List.Pairwise.nil
  | last rest hmore =>
    rw [entries, List.flatMap_singleton]
    exact hdata (hasc _ List.mem_cons_self)
  | @more after v rest z answers hmore hlast hrest ih =>
    obtain ⟨hv, hrest'⟩ := List.forall_mem_cons.1 hasc
    rw [entries, List.flatMap_cons]
    refine List.pairwise_append.2 ⟨hdata hv, ih hrest', fun x hx y hy => ?_⟩
    have hzy : key z < key y := by simpa using hrest.after_lt y hy
    exact lt_of_le_of_lt (Page.le_last (hdata hv) hlast hx) hzy

/-- `hasMore` tells whether there is an entry beyond all that have been met. -/
theorem hasMore_iff (h : Walk rows key cursorOf after visits answers)
    {before later : List (Visit σ × Page α)} {a : Visit σ × Page α}
    (hsplit : answers = before ++ a :: later) : a.2.hasMore = true ↔
      ∃ z ∈ rows a.1.state, after.all (· < key z) ∧
        ∀ x ∈ entries (before ++ [a]), key x < key z := by
  have head : ∀ {v : Visit σ} {after : Option κ}, Ascending key (rows v.state) →
      ((pageAt rows key cursorOf after v).hasMore = true ↔ ∃ z ∈ rows v.state,
        after.all (· < key z) ∧ ∀ x ∈ (pageAt rows key cursorOf after v).data, key x < key z) := by
    intro v after hv
    constructor
    · intro hmore
      obtain ⟨z, hz, hlt⟩ := Page.exists_beyond (ascending_rowsAfter hv) hmore
      exact ⟨z, (mem_rowsAfter.1 hz).1, (mem_rowsAfter.1 hz).2, hlt⟩
    · rintro ⟨z, hz, hafter, hlt⟩
      by_contra hmore
      have hdata := Page.data_eq_of_not_hasMore (Bool.eq_false_iff.2 hmore)
      exact lt_irrefl _ (hlt z (hdata ▸ mem_rowsAfter.2 ⟨hz, hafter⟩))
  induction h generalizing before with
  | stopped => simp at hsplit
  | last rest hmore =>
    obtain ⟨rfl, ha, rfl⟩ : before = [] ∧ a = _ ∧ later = [] := by
      cases before with
      | nil => simpa [eq_comm] using hsplit
      | cons b before => simp at hsplit
    rw [ha, List.nil_append, entries, List.flatMap_singleton]
    exact head (hasc _ List.mem_cons_self)
  | @more after v rest w answers hmore hlast hrest ih =>
    obtain ⟨hv, hrest'⟩ := List.forall_mem_cons.1 hasc
    cases before with
    | nil =>
      obtain ⟨rfl, rfl⟩ := List.cons.inj hsplit
      rw [List.nil_append, entries, List.flatMap_singleton]
      exact head hv
    | cons b before =>
      obtain ⟨rfl, hrest''⟩ := List.cons.inj hsplit
      refine (ih hrest' hrest'').trans ?_
      rw [List.cons_append, entries, entries, List.flatMap_cons]
      -- what is beyond the last row of the first page is beyond all of it, and conversely
      have hw := List.mem_of_getLast? hlast
      refine exists_congr fun z => and_congr_right fun hz => ?_
      simp only [List.mem_append, or_imp, forall_and, Option.all_some, decide_eq_true_eq]
      constructor
      · rintro ⟨hwz, hlt⟩
        have hdata : Ascending key (pageAt rows key cursorOf after v).data :=
          (ascending_rowsAfter hv).sublist Page.data_sublist
        exact ⟨all_lt_trans (mem_pageAt hw).2 hwz,
          fun x hx => lt_of_le_of_lt (Page.le_last hdata hlast hx) hwz, hlt⟩
      · rintro ⟨-, hdata, hlt⟩
        exact ⟨hdata w hw, hlt⟩

/-- A finished walk has met every key that had an entry at each of its visits. -/
theorem complete (h : Walk rows key cursorOf after visits answers) (hfin : Finished answers)
    {k : κ} (hk : after.all (· < k)) (hall : ∀ a ∈ answers, ∃ x ∈ rows a.1.state, key x = k) :
    ∃ x ∈ entries answers, key x = k := by
  induction h with
  | stopped =>
    obtain ⟨a, ha, -⟩ := hfin
    cases ha
  | last rest hmore =>
    obtain ⟨x, hx, rfl⟩ := hall _ List.mem_cons_self
    rw [entries, List.flatMap_singleton]
    exact ⟨x, Page.data_eq_of_not_hasMore hmore ▸ mem_rowsAfter.2 ⟨hx, hk⟩, rfl⟩
  | @more after v rest w answers hmore hlast hrest ih =>
    obtain ⟨hv, hrest'⟩ := List.forall_mem_cons.1 hasc
    obtain ⟨hhead, htail⟩ := List.forall_mem_cons.1 hall
    have hfin' : Finished answers := by
      obtain ⟨a, ha, hno⟩ := hfin
      rw [List.getLast?_cons] at ha
      cases hl : answers.getLast? with
      | none =>
        rw [hl] at ha
        obtain rfl := Option.some.inj ha
        exact absurd hmore (Bool.eq_false_iff.1 hno)
      | some b =>
        rw [hl] at ha
        obtain rfl := Option.some.inj ha
        exact ⟨b, hl, hno⟩
    obtain ⟨x, hx, rfl⟩ := hhead
    rw [entries, List.flatMap_cons]
    by_cases hdata : x ∈ (pageAt rows key cursorOf after v).data
    · exact ⟨x, List.mem_append_left _ hdata, rfl⟩
    · have hwx : key w < key x := Page.lt_of_not_mem_data (ascending_rowsAfter hv)
        (List.mem_of_getLast? hlast) (mem_rowsAfter.2 ⟨hx, hk⟩) hdata
      obtain ⟨y, hy, hyx⟩ := ih hrest' hfin' (by simpa using hwx) htail
      exact ⟨y, List.mem_append_right _ hy, hyx⟩

omit hasc in
/-- In a state that does not change, a walk that may visit often enough is finished. -/
theorem finished_of_constant {s : σ} (h : Walk rows key cursorOf after visits answers)
    (hconst : ∀ v ∈ visits, v.state = s)
    (henough : (rowsAfter key after (rows s)).length < visits.length) : Finished answers := by
  induction h with
  | stopped => exact absurd henough (Nat.not_lt_zero _)
  | last rest hmore => exact ⟨_, rfl, hmore⟩
  | @more after v rest w answers hmore hlast hrest ih =>
    obtain ⟨rfl, hrest'⟩ := List.forall_mem_cons.1 hconst
    -- the last row of the page is not met again
    have hw := Page.data_sublist.mem (List.mem_of_getLast? hlast)
    have hshrink : (rowsAfter key (some (key w)) (rows v.state)).length <
        (rowsAfter key after (rows v.state)).length := by
      rw [rowsAfter_of_mem (mem_rowsAfter.1 hw).2, List.length_filter_lt_length_iff_exists]
      exact ⟨w, hw, by simp⟩
    obtain ⟨a, ha, hno⟩ := ih hrest' (by rw [List.length_cons] at henough; omega)
    exact ⟨a, by rw [List.getLast?_cons, ha]; rfl, hno⟩

end Walk

theorem Ascending.nodup_keys {l : List α} (hl : Ascending key l) : (l.map key).Nodup :=
  List.pairwise_map.2 (hl.imp ne_of_lt)

/-- Rows in ascending order are known by their members. -/
theorem Ascending.eq_of_mem_iff {l l' : List α} (hl : Ascending key l) (hl' : Ascending key l')
    (h : ∀ x, x ∈ l ↔ x ∈ l') : l = l' := by
  refine List.Perm.eq_of_pairwise (fun x y _ _ hxy hyx => absurd hyx (lt_asymm hxy)) hl hl' ?_
  exact (List.perm_ext_iff_of_nodup hl.nodup_keys.of_map hl'.nodup_keys.of_map).2 h

/-- In a state that does not change, a finished walk from the start has met the rows of the state,
each once and in their order. -/
theorem Walk.entries_eq_of_constant {s : σ} (h : Walk rows key cursorOf none visits answers)
    (hasc : Ascending key (rows s)) (hconst : ∀ v ∈ visits, v.state = s)
    (hfin : Finished answers) : entries answers = rows s := by
  have hascs : ∀ v ∈ visits, Ascending key (rows v.state) := fun v hv => (hconst v hv).symm ▸ hasc
  have hstate : ∀ a ∈ answers, a.1.state = s := fun a ha =>
    hconst _ (h.visited.1.subset (List.mem_map_of_mem ha))
  have hsound : ∀ x ∈ entries answers, x ∈ rows s := by
    intro x hx
    obtain ⟨a, ha, hx⟩ := List.mem_flatMap.1 hx
    obtain ⟨after, heq⟩ := h.page ha
    exact hstate a ha ▸ (mem_pageAt (heq ▸ hx)).1
  refine (h.ascending hascs).eq_of_mem_iff hasc fun x => ⟨hsound x, fun hx => ?_⟩
  obtain ⟨y, hy, hyx⟩ := h.complete hascs hfin (k := key x) rfl fun a ha =>
    ⟨x, (hstate a ha).symm ▸ hx, rfl⟩
  obtain rfl := List.inj_on_of_nodup_map hasc.nodup_keys (hsound y hy) hx hyx
  exact hy

/-- Following the cursors of a listing from its start. -/
theorem Serves.traversal {ask : σ → PageRequest → Except ε (Page α)} {good : σ → Prop}
    (h : Serves ask good rows key cursorOf) {listed : σ → κ → Prop}
    (hlisted : ∀ s, good s → ∀ k, listed s k ↔ ∃ x ∈ rows s, key x = k)
    (hgood : ∀ v ∈ visits, good v.state) :
    ∃ answers, BuildRegistry.follow ask none visits = .ok answers ∧
      Traversal listed key visits answers ∧
      (∀ a ∈ answers, ∀ x ∈ a.2.data, x ∈ rows a.1.state) ∧
      ∀ s, (∀ v ∈ visits, v.state = s) → (rows s).length < visits.length →
        Finished answers ∧ entries answers = rows s := by
  obtain ⟨answers, hfollow, hwalk⟩ := h.follow .start hgood
  have hasc : ∀ v ∈ visits, Ascending key (rows v.state) := fun v hv => h.ascending _ (hgood v hv)
  have hvisited : ∀ a ∈ answers, good a.1.state := fun a ha =>
    hgood _ (hwalk.visited.1.subset (List.mem_map_of_mem ha))
  have hrows : ∀ a ∈ answers, ∀ x ∈ a.2.data, x ∈ rows a.1.state := by
    intro a ha x hx
    obtain ⟨after, heq⟩ := hwalk.page ha
    exact (mem_pageAt (heq ▸ hx)).1
  refine ⟨answers, hfollow, ?_, hrows, fun s hs henough => ?_⟩
  · constructor
    · exact hwalk.visited
    · exact hwalk.ascending hasc
    · exact fun a ha x hx => (hlisted _ (hvisited a ha) _).2 ⟨x, hrows a ha x hx, rfl⟩
    · exact fun a ha => hwalk.sized ha
    · intro a ha
      obtain ⟨after, heq⟩ := hwalk.page ha
      exact heq ▸ Page.nextCursor_isSome (PageRequest.pageSize_pos _)
    · intro before a later hsplit
      have ha : a ∈ answers := hsplit ▸ List.mem_append_right _ List.mem_cons_self
      rw [hwalk.hasMore_iff hasc hsplit]
      constructor
      · rintro ⟨z, hz, -, hlt⟩
        exact ⟨key z, (hlisted _ (hvisited a ha) _).2 ⟨z, hz, rfl⟩, hlt⟩
      · rintro ⟨k, hk, hlt⟩
        obtain ⟨z, hz, rfl⟩ := (hlisted _ (hvisited a ha) _).1 hk
        exact ⟨z, hz, rfl, hlt⟩
    · exact fun hfin k hk =>
        hwalk.complete hasc hfin rfl fun a ha => (hlisted _ (hvisited a ha) _).1 (hk a ha)
  · have hfin : Finished answers := hwalk.finished_of_constant hs (by rwa [rowsAfter_none])
    obtain ⟨v, hv⟩ := List.exists_mem_of_length_pos (Nat.zero_lt_of_lt henough)
    exact ⟨hfin, hwalk.entries_eq_of_constant (hs v hv ▸ hasc v hv) hs hfin⟩

/-! ## Listings in one state -/

/-- Following the pages of a listing in one state, whatever limits are asked for, never fails; the
pages have the sizes asked for, there is a last one, and up to it they hold these rows, one after
the other. -/
def Enumerates (ask : σ → PageRequest → Except ε (Page α)) (s : σ) (rows : List α) : Prop :=
  ∀ limits : List (Option Int), ∃ answers,
    BuildRegistry.follow ask none (limits.map (Visit.mk s)) = .ok answers ∧
      (∀ a ∈ answers, a.2.Sized a.1.limit) ∧
      (Finished answers → entries answers = rows) ∧
      (rows.length < limits.length → Finished answers)

theorem Serves.enumerates {ask : σ → PageRequest → Except ε (Page α)} {good : σ → Prop}
    (h : Serves ask good rows key cursorOf) {s : σ} (hs : good s) : Enumerates ask s (rows s) := by
  intro limits
  have hconst : ∀ v ∈ limits.map (Visit.mk s), v.state = s := by
    intro v hv
    obtain ⟨limit, -, rfl⟩ := List.mem_map.1 hv
    rfl
  obtain ⟨answers, hfollow, hwalk⟩ := h.follow .start fun v hv => (hconst v hv).symm ▸ hs
  refine ⟨answers, hfollow, fun a ha => hwalk.sized ha,
    hwalk.entries_eq_of_constant (h.ascending s hs) hconst, fun henough => hwalk.finished_of_constant hconst ?_⟩
  rwa [rowsAfter_none, List.length_map]

end Traversal

end BuildRegistry
