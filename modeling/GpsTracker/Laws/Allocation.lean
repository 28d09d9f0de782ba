/-
The envelope under allocation failures (hologram.c).

`build_envelope` looks at the first two creates and the first two adds and
gives up where one of them failed. The three calls for the topic list it
does not look at: a topic that was not made leaves the list empty, a topic
or a list that was not added is never freed, and what is printed is taken
for the envelope all the same.
-/
import GpsTracker.Laws.Envelope
import GpsTracker.Model.Cjson

namespace GpsTracker

open Proc

namespace Cjson

variable {δ : Type}

-- ================================================================= statements

/-- The JSON of an envelope: `k`, `d` and the one topic. -/
def envelopeValue (cfg : Config) (innerJson : Text) : Json :=
  .obj [("k".toList, .str cfg.hologramDeviceKey), ("d".toList, .str innerJson),
    ("t".toList, .arr [.str cfg.hologramTopic])]

/-- An error or the whole envelope, and every node freed once. -/
structure AllOrNothing (cfg : Config) (innerJson : Text)
    (r : Except Int Text) (F : Forest) : Prop where
  returns : match r with
    | .error e => e < 0
    | .ok text => Json.parse text = some (envelopeValue cfg innerJson)
  frees : F.Balanced

/-- Which calls of the library succeeded: the four that are looked at, the
three for the topic list, and the print. -/
structure Outcome where
  gaveUp : Bool := false
  topicMade : Bool := false
  topicListed : Bool := false
  listAdded : Bool := false
  printed : Bool := false

/-- What one more answer adds. -/
def note : (o : Op) → o.Ret → Outcome → Outcome
  | .createObject, none, out | .createArray, none, out
  | .addStringToObject .., none, out => { out with gaveUp := true }
  | .createString _, some _, out => { out with topicMade := true }
  | .addItemToArray .., true, out => { out with topicListed := true }
  | .addItemToObject .., true, out => { out with listAdded := true }
  | .printPreallocated .., some _, out => { out with printed := true }
  | _, _, out => out

/-- The outcome on record. -/
def outcome : Log Unit δ Empty Functions → Outcome
  | [] => {}
  | .call _ _ o r :: l => note o r (outcome l)
  | .env _ _ a :: _ => nomatch a

/-- One of the calls that are looked at failed; or the list was added, with
its topic in it, or without one and the print failed. -/
def Outcome.Sound (out : Outcome) : Prop :=
  out.gaveUp = true ∨ out.listAdded = true ∧
    (out.topicMade = true ∧ out.topicListed = true ∨
      out.topicMade = false ∧ out.printed = false)

-- ================================================================= the calls

variable {M : Machine δ Empty Functions} {view : δ → Forest}
variable {l₀ : Log Unit δ Empty Functions}

/-- The outcome since a call began, and the nodes as they stand. -/
def At (view : δ → Forest) (l₀ : Log Unit δ Empty Functions) (out : Outcome)
    (F : Forest) : World Unit δ Empty Functions → Prop :=
  After l₀ fun l h => outcome l = out ∧ view h = F

/-- Nothing but calls happens to a library. -/
theorem at_stable (out : Outcome) (F : Forest) :
    Stable M (Since l₀ fun _ => True) (At view l₀ out F) :=
  fun _ a => nomatch a

/-- One call, by its answer. -/
theorem at_call (hM : Documented M view) (o : Op) (out : Outcome)
    (F : Forest) :
    Triple M (Since l₀ fun _ => True) (fun _ => True) (At view l₀ out F)
      (call o)
      fun r w => At view l₀ (note o r out) (step o r F) w ∧ allows o r F := by
  refine Triple.op (at_stable out F) fun w r hw hok _ => ⟨trivial, ?_⟩
  obtain ⟨l, hl, hout, hF⟩ := hw
  have hallows := hM.answers o r w.dev hok
  have heffect := hM.effects o r w.dev hok
  rw [hF] at hallows heffect
  refine ⟨⟨.call w.st w.dev o r :: l, congrArg (List.cons _) hl, ?_,
    heffect⟩, hallows⟩
  show note o r (outcome l) = note o r out
  rw [hout]

/-- The text is one that the envelope can come to. -/
def Enveloped (cfg : Config) (innerJson text : Text) : Prop :=
  ∃ topic list, text = Hologram.envelope cfg innerJson topic list

/-- The end of a call: whole or nothing as its outcome is sound, and an
envelope in either case. -/
def Ended (cfg : Config) (innerJson : Text) (view : δ → Forest)
    (l₀ : Log Unit δ Empty Functions) (r : Except Int Text)
    (w : World Unit δ Empty Functions) : Prop :=
  After l₀ (fun l h =>
    AllOrNothing cfg innerJson r (view h) ↔ (outcome l).Sound) w ∧
  ∀ text, r = .ok text →
    ∃ body, Enveloped cfg innerJson body ∧ text = body ++ "\n\n".toList

theorem At.ended {cfg : Config} {innerJson : Text} {r : Except Int Text}
    {out : Outcome} {F : Forest} {w : World Unit δ Empty Functions}
    (h : At view l₀ out F w)
    (hiff : AllOrNothing cfg innerJson r F ↔ out.Sound)
    (htext : ∀ text, r = .ok text →
      ∃ body, Enveloped cfg innerJson body ∧ text = body ++ "\n\n".toList) :
    Ended cfg innerJson view l₀ r w := by
  obtain ⟨l, hl, rfl, rfl⟩ := h
  exact ⟨⟨l, hl, hiff⟩, htext⟩

-- ================================================================ giving up

/-- An address where nothing lives is not among those made, as long as
nothing was freed. -/
theorem Forest.Vacant.fresh {F : Forest} {p : Nat} (h : F.Vacant p)
    (hfreed : F.freed = []) : p ∉ F.made := by
  unfold Forest.Vacant at h
  rw [hfreed, List.count_nil] at h
  exact List.count_eq_zero.mp h.symm

/-- Giving up is right once both roots are freed. -/
theorem giveUp_ends (hM : Documented M view) (cfg : Config)
    (innerJson : Text) {out : Outcome} (hout : out.gaveUp = true)
    {F : Forest} {root : Nat} {topics : Option Nat}
    (h : ((step (.delete topics) () F).delete root).Balanced) :
    Triple M (Since l₀ fun _ => True) (fun _ => True) (At view l₀ out F)
      (giveUp root topics) (Ended cfg innerJson view l₀) := by
  have hends : AllOrNothing cfg innerJson (.error (-ENOMEM))
      ((step (.delete topics) () F).delete root) :=
    ⟨show -ENOMEM < 0 by decide, h⟩
  refine ((at_call hM _ _ _).post fun _ w hw => hw.1).bind fun _ =>
    ((at_call hM _ _ _).post fun _ w hw => hw.1).bind fun _ =>
      Triple.ret fun w hw => At.ended hw (iff_of_true hends (.inl hout)) nofun

/-- The root alone. -/
theorem root_freed (root : Nat) :
    ((({} : Forest).create root .object).delete root).Balanced := by
  intro p
  simp [Forest.Vacant, Forest.delete, Forest.create, Forest.hold,
    Item.addresses, addressesOf]

/-- The list beside the root, with what hangs below each. -/
def rooted (root topics : Nat) (kids items : List (Text × Item)) : Forest where
  held p :=
    if p = topics then some (.node topics .array items)
    else if p = root then some (.node root .object kids)
    else none
  made := root :: topics :: (addressesOf kids ++ addressesOf items)

section Rooted

variable {root topics : Nat} {kids items : List (Text × Item)}

theorem addresses_append (kids more : List (Text × Item)) :
    addressesOf (kids ++ more) = addressesOf kids ++ addressesOf more := by
  induction kids with
  | nil => rfl
  | cons kid kids ih =>
      simp only [List.cons_append, addressesOf, ih, List.append_assoc]

theorem topics_created :
    (({} : Forest).create root .object).create topics .array
      = rooted root topics [] [] := rfl

theorem string_added (h : topics ≠ root) (name s : Text) (p : Nat) :
    step (.addStringToObject root name s) (some p) (rooted root topics kids [])
      = rooted root topics (kids ++ [(name, .node p (.string s) [])]) [] := by
  have hroot : (rooted root topics kids []).held root
      = some (.node root .object kids) := by
    simp [rooted, h.symm]
  simp only [step, Forest.attach, hroot]
  simp only [rooted, Forest.hold, Forest.mk.injEq, and_true]
  refine ⟨funext fun q => ?_, ?_⟩
  · by_cases hq : q = root
    · simp [hq, h.symm]
    · simp [hq]
  · simp [addresses_append, addressesOf, Item.addresses]

/-- Freed one after the other, nothing of either is left. -/
theorem rooted_freed (h : topics ≠ root) :
    (((rooted root topics kids items).delete topics).delete root).Balanced := by
  intro p
  simp [Forest.Vacant, Forest.delete, Forest.hold, rooted, Item.addresses,
    h.symm, List.count_cons]
  omega

/-- The topic, made and put on the list. -/
theorem topic_listed {q : Nat} (hroot : q ≠ root) (htopics : q ≠ topics)
    (s : Text) :
    step (.addItemToArray (some topics) (some q)) true
        ((rooted root topics kids []).create q (.string s))
      = rooted root topics kids [([], .node q (.string s) [])] := by
  have hq : ((rooted root topics kids []).create q (.string s)).held q
      = some (.node q (.string s) []) := by
    simp [Forest.create, Forest.hold]
  simp only [step, Forest.move, hq]
  have hlist : (((rooted root topics kids []).create q (.string s)).hold q
      none).held topics = some (.node topics .array []) := by
    simp [Forest.create, Forest.hold, rooted, htopics.symm]
  simp only [Forest.attach, hlist]
  simp only [rooted, Forest.create, Forest.hold, Forest.mk.injEq, and_true]
  refine ⟨funext fun p => ?_, ?_⟩
  · by_cases hp : p = topics
    · simp [hp]
    · by_cases hpq : p = q
      · simp [hpq, hroot, htopics]
      · simp [hp, hpq]
  · simp [addressesOf, Item.addresses]

/-- The list, put into the root. -/
theorem list_added (h : topics ≠ root) (name : Text) :
    step (.addItemToObject root name (some topics)) true
        (rooted root topics kids items)
      = { held := fun p => if p = root then
            some (.node root .object
              (kids ++ [(name, .node topics .array items)])) else none
          made := (rooted root topics kids items).made } := by
  have hlist : (rooted root topics kids items).held topics
      = some (.node topics .array items) := by
    simp [rooted]
  have hroot : ((rooted root topics kids items).hold topics none).held root
      = some (.node root .object kids) := by
    simp [Forest.hold, rooted, h.symm]
  simp only [step, Forest.move, hlist, Forest.attach, hroot]
  simp only [rooted, Forest.hold, Forest.mk.injEq, and_true]
  refine funext fun p => ?_
  by_cases hp : p = root
  · simp [hp]
  · by_cases hpt : p = topics
    · simp [hpt, h]
    · simp [hp, hpt]

/-- With the list in it the root takes everything along. -/
theorem list_freed (h : topics ≠ root) (name : Text) :
    ((step (.addItemToObject root name (some topics)) true
      (rooted root topics kids items)).delete root).Balanced := by
  rw [list_added h]
  intro p
  simp [Forest.Vacant, Forest.delete, Forest.hold, rooted, Item.addresses,
    addresses_append, addressesOf, List.count_cons]
  omega

/-- A topic that did not get onto the list stays behind, wherever the list
goes. -/
theorem stray_held {q : Nat} (hroot : q ≠ root) (htopics : q ≠ topics)
    (h : topics ≠ root) (name s : Text) (b : Bool) {F : Forest}
    (hF : F = step (.addItemToObject root name (some topics)) b
      ((rooted root topics kids []).create q (.string s))) :
    (∃ list, F.held root = some (.node root .object (kids ++ list)) ∧
      (list = [] ∨ list = [(name, .node topics .array [])])) ∧
      F.freed = [] ∧ q ∈ F.made := by
  subst hF
  cases b with
  | false =>
      refine ⟨⟨[], ?_, .inl rfl⟩, rfl, ?_⟩
      · simp [step, Forest.create, Forest.hold, rooted, hroot.symm, h.symm]
      · simp [step, Forest.create]
  | true =>
      have hlist : ((rooted root topics kids []).create q (.string s)).held
          topics = some (.node topics .array []) := by
        simp [Forest.create, Forest.hold, rooted, htopics.symm]
      have hheld : (((rooted root topics kids []).create q (.string s)).hold
          topics none).held root = some (.node root .object kids) := by
        simp [Forest.create, Forest.hold, rooted, hroot.symm, h.symm]
      simp only [step, Forest.move, hlist, Forest.attach, hheld]
      refine ⟨⟨_, if_pos rfl, .inr rfl⟩, rfl, ?_⟩
      simp [Forest.create, Forest.hold]

end Rooted

/-- What is made and not below the one item that is freed stays behind. -/
theorem leaked {F : Forest} {root p : Nat} {i : Item}
    (hroot : F.held root = some i) (hfreed : F.freed = [])
    (hmade : p ∈ F.made) (hp : p ∉ i.addresses) :
    ¬(F.delete root).Balanced := by
  intro hbalanced
  have hcount := hbalanced p
  simp only [Forest.Vacant, Forest.delete, hroot, hfreed,
    List.append_nil, Forest.hold] at hcount
  rw [List.count_eq_zero.mpr hp] at hcount
  exact absurd hmade (List.count_eq_zero.mp hcount.symm)

-- ================================================================= the print

/-- The members of the root before the list is added. -/
def members (cfg : Config) (innerJson : Text) (k d : Nat) :
    List (Text × Item) :=
  [("k".toList, .node k (.string cfg.hologramDeviceKey) []),
   ("d".toList, .node d (.string innerJson) [])]

/-- The items of the list, with its topic or without. -/
def topicItems (cfg : Config) : Option Nat → List (Text × Item)
  | none => []
  | some q => [([], .node q (.string cfg.hologramTopic) [])]

/-- The print of the whole root is the envelope. -/
theorem root_print (cfg : Config) (innerJson : Text) (root topics k d : Nat)
    (item : Option Nat) :
    (Item.node root .object (members cfg innerJson k d
        ++ [("t".toList, .node topics .array (topicItems cfg item))])).print
      = Hologram.envelope cfg innerJson item.isSome true := by
  have hk : Hologram.escape "k".toList = "k".toList := by decide
  have hd : Hologram.escape "d".toList = "d".toList := by decide
  have ht : Hologram.escape "t".toList = "t".toList := by decide
  simp only [Item.print, members, printOf, List.cons_append, List.nil_append,
    hk, hd, ht]
  unfold Hologram.envelope
  generalize Hologram.escape cfg.hologramDeviceKey = key
  generalize Hologram.escape innerJson = data
  cases item with
  | none => simp [topicItems, printOf]
  | some q =>
      simp only [topicItems, printOf, Item.print]
      generalize Hologram.escape cfg.hologramTopic = name
      simp

/-- The print of a root that the list is not in. -/
theorem bare_print (cfg : Config) (innerJson : Text) (root k d : Nat) :
    (Item.node root .object (members cfg innerJson k d)).print
      = Hologram.envelope cfg innerJson false false := by
  have hk : Hologram.escape "k".toList = "k".toList := by decide
  have hd : Hologram.escape "d".toList = "d".toList := by decide
  simp only [Item.print, members, printOf, hk, hd]
  unfold Hologram.envelope
  generalize Hologram.escape cfg.hologramDeviceKey = key
  generalize Hologram.escape innerJson = data
  simp

/-- What is printed is the envelope exactly if the topic is on the list. -/
theorem root_parses (cfg : Config) (innerJson : Text)
    (root topics k d : Nat) (item : Option Nat) :
    Json.parse ((Item.node root .object (members cfg innerJson k d
        ++ [("t".toList, .node topics .array (topicItems cfg item))])).print
          ++ "\n\n".toList) = some (envelopeValue cfg innerJson)
      ↔ item.isSome = true := by
  have hreads := hologramEnvelope_reads cfg innerJson item.isSome true
  rw [root_print, hreads.parse_gap (by decide)]
  cases item with
  | none => simp [hologramValues, envelopeValue]
  | some q => simp [hologramValues, envelopeValue]

section Print

variable {cfg : Config} {innerJson : Text} {out : Outcome} {F : Forest}
variable {root : Nat}

/-- The print, by what becomes of its item. -/
theorem print_ends (hM : Documented M view) {i : Item}
    (hroot : F.held root = some i)
    (hprint : Enveloped cfg innerJson i.print)
    (hnone : (F.delete root).Balanced ↔ out.Sound)
    (hsome : Json.parse (i.print ++ "\n\n".toList)
        = some (envelopeValue cfg innerJson) ∧ (F.delete root).Balanced
      ↔ { out with printed := true }.Sound) :
    Triple M (Since l₀ fun _ => True) (fun _ => True) (At view l₀ out F)
      (printEnvelope root) (Ended cfg innerJson view l₀) := by
  refine (at_call hM _ _ _).bind fun printed => Triple.pure_pre fun hprinted =>
    ((at_call hM _ _ _).post fun _ w hw => hw.1).bind fun _ => ?_
  cases printed with
  | none =>
      refine Triple.ret fun w hw => At.ended hw (Iff.trans ⟨?_, ?_⟩ hnone)
        nofun
      · exact fun h => h.frees
      · exact fun h => ⟨show -ENOMEM < 0 by decide, h⟩
  | some text =>
      have htext : text = i.print := by
        have hheld := hprinted text rfl
        rw [hroot] at hheld
        exact (Option.some.inj hheld).symm
      subst htext
      refine Triple.ret fun w hw => At.ended hw (Iff.trans ⟨?_, ?_⟩ hsome)
        fun text h => ⟨_, hprint, (Except.ok.inj h).symm⟩
      · exact fun h => ⟨h.returns, h.frees⟩
      · exact fun h => ⟨h.1, h.2⟩

/-- The print with something left behind. -/
theorem print_leaks (hM : Documented M view) {i : Item}
    (hroot : F.held root = some i)
    (hprint : Enveloped cfg innerJson i.print)
    (hbalanced : ¬(F.delete root).Balanced)
    (hout : ∀ b, ¬{ out with printed := b }.Sound)
    (hunprinted : out.printed = false) :
    Triple M (Since l₀ fun _ => True) (fun _ => True) (At view l₀ out F)
      (printEnvelope root) (Ended cfg innerJson view l₀) := by
  refine print_ends hM hroot hprint (iff_of_false hbalanced ?_)
    (iff_of_false (fun h => hbalanced h.2) (hout true))
  have hunsound := hout false
  rw [← hunprinted] at hunsound
  exact hunsound

end Print

-- =============================================================== the topics

section Topics

variable {cfg : Config} {innerJson : Text} {root topics k d : Nat}

/-- Four nodes, none of them where another is. -/
theorem nodes_apart (cfg : Config) (innerJson : Text)
    (hnodup : [root, topics, k, d].Nodup) :
    topics ≠ root ∧ topics ∉ addressesOf (members cfg innerJson k d) := by
  simp only [List.nodup_cons, List.mem_cons, List.not_mem_nil, or_false,
    not_or] at hnodup
  obtain ⟨⟨hroot, -, -⟩, ⟨hk, hd⟩, -⟩ := hnodup
  refine ⟨Ne.symm hroot, ?_⟩
  simp [members, addressesOf, Item.addresses, hk, hd]

/-- The list goes into the root, with its topic on it or without one. -/
theorem add_list_ends (hM : Documented M view) (item : Option Nat)
    (listed : Bool) (hnodup : [root, topics, k, d].Nodup)
    (hlisted : item.isSome = true → listed = true) :
    Triple M (Since l₀ fun _ => True) (fun _ => True)
      (At view l₀ { topicMade := item.isSome, topicListed := listed }
        (rooted root topics (members cfg innerJson k d)
          (topicItems cfg item)))
      (do
        let _ ← call (.addItemToObject root "t".toList (some topics))
        printEnvelope root)
      (Ended cfg innerJson view l₀) := by
  obtain ⟨hne, hmembers⟩ := nodes_apart cfg innerJson hnodup
  refine ((at_call hM _ _ _).post fun _ w hw => hw.1).bind fun added => ?_
  cases added with
  | false =>
      -- the list is nobody's: only the root is deleted, and the list is
      -- leaked
      have hroot : (rooted root topics (members cfg innerJson k d)
          (topicItems cfg item)).held root
            = some (.node root .object (members cfg innerJson k d)) := by
        simp [rooted, hne.symm]
      have hmade : topics ∈ (rooted root topics (members cfg innerJson k d)
          (topicItems cfg item)).made := by
        simp [rooted]
      have hbelow : topics ∉ (Item.node root .object
          (members cfg innerJson k d)).addresses := by
        simp [Item.addresses, hne, hmembers]
      exact print_leaks hM hroot ⟨_, _, bare_print cfg innerJson root k d⟩
        (leaked hroot rfl hmade hbelow)
        (fun b => by simp [Outcome.Sound, note]) rfl
  | true =>
      -- the list hangs below the root and goes with it
      have hfreed : ((step (.addItemToObject root "t".toList (some topics))
          true (rooted root topics (members cfg innerJson k d)
            (topicItems cfg item))).delete root).Balanced :=
        list_freed hne "t".toList
      refine print_ends hM (by rw [list_added hne]; exact if_pos rfl)
        ⟨_, _, root_print cfg innerJson root topics k d item⟩
        (iff_of_true hfreed ?_) ?_
      · cases item with
        | none => simp [Outcome.Sound, note]
        | some q => simp [Outcome.Sound, note, hlisted rfl]
      · rw [and_iff_left hfreed, root_parses]
        cases item with
        | none => simp [Outcome.Sound, note]
        | some q => simp [Outcome.Sound, note, hlisted rfl]

theorem add_topics_ends (hM : Documented M view)
    (hnodup : [root, topics, k, d].Nodup) :
    Triple M (Since l₀ fun _ => True) (fun _ => True)
      (At view l₀ {} (rooted root topics (members cfg innerJson k d) []))
      (addTopics cfg root topics) (Ended cfg innerJson view l₀) := by
  obtain ⟨hne, hmembers⟩ := nodes_apart cfg innerJson hnodup
  refine (at_call hM _ _ _).bind fun item => Triple.pure_pre fun hitem =>
    ((at_call hM _ _ _).post fun _ w hw => hw.1).bind fun listed => ?_
  -- no topic: the list goes in empty
  cases item with
  | none =>
      refine (add_list_ends hM none listed hnodup nofun).pre fun w hw => ?_
      cases listed <;> exact hw
  | some q =>
      have hq : q ∉ (rooted root topics (members cfg innerJson k d) []).made :=
        (hitem q rfl).fresh rfl
      simp only [rooted, List.mem_cons, List.append_nil, addressesOf,
        not_or] at hq
      obtain ⟨hqroot, hqtopics, hqmembers⟩ := hq
      cases listed with
      | true =>
          refine (add_list_ends hM (some q) true hnodup fun _ => rfl).pre
            fun w hw => ?_
          rw [topicItems, ← topic_listed hqroot hqtopics]
          exact hw
      | false =>
          -- the topic was made and not added: it is leaked whether or not the
          -- list goes in
          refine ((at_call hM _ _ _).post fun _ w hw => hw.1).bind
            fun added => ?_
          obtain ⟨⟨list, hroot, hlist⟩, hfreed, hmade⟩ := stray_held hqroot
            hqtopics hne "t".toList cfg.hologramTopic added rfl
          have hbelow : q ∉ (Item.node root .object
              (members cfg innerJson k d ++ list)).addresses := by
            rcases hlist with rfl | rfl
            · simp [Item.addresses, hqroot, hqmembers]
            · simp [Item.addresses, addresses_append, addressesOf, hqroot,
                hqtopics, hqmembers]
          have hprint : Enveloped cfg innerJson (Item.node root .object
              (members cfg innerJson k d ++ list)).print := by
            rcases hlist with rfl | rfl
            · exact ⟨_, _, bare_print cfg innerJson root k d⟩
            · exact ⟨_, _, root_print cfg innerJson root topics k d none⟩
          refine print_leaks hM hroot hprint (leaked hroot hfreed hmade hbelow)
            (fun b => ?_) ?_
          · cases added <;> simp [Outcome.Sound, note]
          · cases added <;> rfl

end Topics

-- =============================================================== the envelope

theorem build_ends (hM : Documented M view) (cfg : Config)
    (innerJson : Text) :
    Triple M (Since l₀ fun _ => True) (fun _ => True) (At view l₀ {} {})
      (buildEnvelope cfg innerJson) (Ended cfg innerJson view l₀) := by
  refine ((at_call hM _ _ _).post fun _ w hw => hw.1).bind fun root => ?_
  -- one early return for each item that may not be made, each deleting all
  -- that was
  cases root with
  | none =>
      have hends : AllOrNothing cfg innerJson (.error (-ENOMEM)) {} :=
        ⟨show -ENOMEM < 0 by decide, fun _ => rfl⟩
      exact Triple.ret fun w hw => At.ended hw
        (iff_of_true hends (.inl rfl)) nofun
  | some root =>
  refine (at_call hM _ _ _).bind fun topics => Triple.pure_pre fun htopics => ?_
  cases topics with
  | none => exact giveUp_ends hM cfg innerJson rfl (root_freed root)
  | some topics =>
  have hne : topics ≠ root := by
    have hfresh := (htopics topics rfl).fresh rfl
    simpa [step, Forest.create] using hfresh
  rw [show step .createArray (some topics) (step .createObject (some root) {})
    = rooted root topics [] [] from topics_created]
  refine (at_call hM _ _ _).bind fun k => Triple.pure_pre fun hk => ?_
  cases k with
  | none => exact giveUp_ends hM cfg innerJson rfl (rooted_freed hne)
  | some k =>
  rw [string_added hne]
  refine (at_call hM _ _ _).bind fun d => Triple.pure_pre fun hd => ?_
  cases d with
  | none => exact giveUp_ends hM cfg innerJson rfl (rooted_freed hne)
  | some d =>
  rw [string_added hne]
  refine add_topics_ends hM ?_
  have hk := (hk k rfl).fresh rfl
  have hd := (hd d rfl).fresh rfl
  simp [rooted, addressesOf, Item.addresses] at hk hd
  simp
  -- the four addresses are apart, each fresh among those before it
  grind

/-- Where a call returns a text, it is one that `build_envelope` returns in
the model of the transport. -/
theorem build_envelopes (hM : Documented M view) {cfg : Config}
    {innerJson : Text} {w w' : World Unit δ Empty Functions} {text : Text}
    (hr : Reach M (buildEnvelope cfg innerJson) w (.ret (.ok text), w'))
    (hnone : view w.dev = {}) :
    ∃ topic list, text
      = Hologram.envelope cfg innerJson topic list ++ "\n\n".toList := by
  have hG : Always (Since w.log fun _ => True) w'.log :=
    always_iff.mpr fun _ _ _ _ _ => trivial
  obtain ⟨-, htext⟩ := (build_ends hM cfg innerJson).result
    (w := w) ⟨[], rfl, rfl, hnone⟩ trivial hr hG
  obtain ⟨body, ⟨topic, list, rfl⟩, hbody⟩ := htext text rfl
  exact ⟨topic, list, hbody⟩

/-- A call gives an error or the whole envelope, and frees every node once,
if and only if it gave up, or the list was added with its topic on it, or
without one and the print failed. -/
theorem build_allOrNothing_iff (hM : Documented M view) {cfg : Config}
    {innerJson : Text} {w w' : World Unit δ Empty Functions}
    {r : Except Int Text} {l : Log Unit δ Empty Functions}
    (hr : Reach M (buildEnvelope cfg innerJson) w (.ret r, w'))
    (hl : w'.log = l ++ w.log) (hnone : view w.dev = {}) :
    AllOrNothing cfg innerJson r (view w'.dev) ↔ (outcome l).Sound := by
  have hG : Always (Since w.log fun _ => True) w'.log := by
    rw [hl]
    exact always_since fun _ _ => trivial
  obtain ⟨⟨l', hl', h⟩, -⟩ := (build_ends hM cfg innerJson).result
    (w := w) ⟨[], rfl, rfl, hnone⟩ trivial hr hG
  rw [List.append_cancel_right (hl.symm.trans hl')]
  exact h

/-- The library that does what is documented and nothing else. -/
def library : Machine Forest Empty Functions where
  ok
    | .createObject, r, F | .createArray, r, F | .createString _, r, F
    | .addStringToObject .., r, F =>
        r.all fun p => F.freed.count p == F.made.count p
    | .addItemToArray array item, r, _ =>
        !r || (array.isSome && item.isSome)
    | .addItemToObject _ _ item, r, _ => !r || item.isSome
    | .printPreallocated item _, r, F =>
        r.isNone || (F.held item).map Item.print == r
    | .delete _, _, _ => true
  effect := step
  can := fun a _ => nomatch a
  move := fun a _ => nomatch a

theorem library_documented : Documented library id where
  answers o r F h := by
    cases o with
    | addItemToArray array item =>
        rintro rfl
        simpa [library] using h
    | addItemToObject object name item =>
        rintro rfl
        simpa [library] using h
    | printPreallocated item len =>
        rintro text rfl
        simpa [library] using h
    | delete item => trivial
    | _ =>
        rintro p rfl
        simpa [library, Forest.Vacant] using h
  effects _ _ _ _ := rfl

/-- Everything succeeds; `topic` whether the topic is made. -/
def allocating (topic : Bool) : Script Unit Forest Empty Functions :=
  fun w o =>
    match o with
    | .createObject | .createArray | .addStringToObject .. =>
        ([], some w.dev.made.length)
    | .createString _ =>
        ([], if topic then some w.dev.made.length else none)
    | .addItemToArray _ item | .addItemToObject _ _ item =>
        ([], item.isSome)
    | .printPreallocated item _ => ([], (w.dev.held item).map Item.print)
    | .delete _ => ([], ())

/-- The envelope of an empty payload, built in an empty heap. -/
def playBuild (topic : Bool) :
    Prog Unit Functions (Except Int Text) × World Unit Forest Empty Functions :=
  play library (allocating topic) 20 (buildEnvelope {} "\x7b\x7d".toList)
    ⟨(), {}, []⟩

theorem playBuild_reach (topic : Bool) :
    Reach library (buildEnvelope {} "\x7b\x7d".toList) ⟨(), {}, []⟩
      (playBuild topic) := play_reach .init

/-- Without a failure. -/
theorem build_allOrNothing_iff_made :
    AllOrNothing {} "\x7b\x7d".toList
        (.ok (Hologram.envelope {} "\x7b\x7d".toList true true
          ++ "\n\n".toList)) (playBuild true).2.dev
      ↔ (outcome (playBuild true).2.log).Sound :=
  build_allOrNothing_iff library_documented (playBuild_reach true)
    (List.append_nil _).symm rfl

/-- A topic that could not be made: an envelope without one is sent. -/
theorem topic_missing :
    ∃ w w' r, Reach library (buildEnvelope {} "\x7b\x7d".toList) w (.ret r, w')
      ∧ Documented library id ∧ w.dev = {} ∧
      r = .ok (Hologram.envelope {} "\x7b\x7d".toList false true
        ++ "\n\n".toList) ∧
      ¬AllOrNothing {} "\x7b\x7d".toList r w'.dev := by
  refine ⟨_, _, _, playBuild_reach false, library_documented, rfl, rfl, ?_⟩
  intro h
  have hparse : Json.parse (Hologram.envelope {} "\x7b\x7d".toList false true
      ++ "\n\n".toList) = some (envelopeValue {} "\x7b\x7d".toList) :=
    h.returns
  rw [(hologramEnvelope_reads _ _ false true).parse_gap (by decide)] at hparse
  simp [hologramValues, envelopeValue] at hparse

end Cjson

end GpsTracker
