import DeviceClaims.Json.Token

namespace DeviceClaims.Json

/-- A value as it was read. A `void` token is well formed but has no value; a key without a name is such
a token in the place of a key. Where the text breaks the grammar the reading ends: the containers that
are open there are marked as not whole, and a value that should have followed is `cut`. So a typed
decoder that goes through a reading from left to right meets the faults of the text and the faults of
its contents in the order in which they stand. -/
inductive Reading
  | scalar (value : Json)
  | str (s : String)
  | void
  | cut
  | arr (items : List Reading) (whole : Bool)
  | obj (members : List (Option String × Reading)) (whole : Bool)
  deriving Inhabited

namespace Reading

/-- A container that is open while the text is read: what it holds so far, the last first, and for
an object the key that waits for its value. -/
inductive Frame
  | arr (done : List Reading)
  | obj (done : List (Option String × Reading)) (key : Option String)

/-- What may come next. -/
inductive Next
  | value
  | firstItem
  | separator
  | firstKey (done : List (Option String × Reading))
  | key (done : List (Option String × Reading))
  | colon (done : List (Option String × Reading)) (key : Option String)

/-- Puts a value into the innermost open container, which is not whole, and so on outwards. -/
def unfinished (r : Reading) : List Frame → Reading
  | [] => r
  | .arr done :: frames => unfinished (.arr (r :: done).reverse false) frames
  | .obj done key :: frames => unfinished (.obj ((key, r) :: done).reverse false) frames

/-- The reading when the text breaks off where `next` should have come. `root` is the value read
last, which is the whole reading if nothing is open. -/
def breakOff (root : Reading) (frames : List Frame) : Next → Reading
  | .value => unfinished .cut frames
  | .firstItem => match frames with
    | .arr done :: frames => unfinished (.arr done.reverse false) frames
    | frames => unfinished .cut frames
  | .separator => match frames with
    | [] => root
    | .arr done :: frames => unfinished (.arr (root :: done).reverse false) frames
    | .obj done key :: frames => unfinished (.obj ((key, root) :: done).reverse false) frames
  | .firstKey done => unfinished (.obj done.reverse false) frames
  | .key done => unfinished (.obj done.reverse false) frames
  | .colon done key => unfinished (.obj ((key, .cut) :: done).reverse false) frames

/-- Reads tokens up to the end of the first value, and says what tokens are left. `root` is the
value read last. -/
def build (root : Reading) : List Frame → Next → List Token → Reading × List Token
  | [], .separator, ts => (root, ts)
  | frames, next, [] => (breakOff root frames next, [])
  | frames, .value, t :: ts => match t with
    | .scalar v => build (.scalar v) frames .separator ts
    | .str s => build (.str s) frames .separator ts
    | .voidNumber | .voidStr => build .void frames .separator ts
    | .openArr => build root (.arr [] :: frames) .firstItem ts
    | .openObj => build root frames (.firstKey []) ts
    | _ => (breakOff root frames .value, t :: ts)
  | frames, .firstItem, t :: ts => match t with
    | .scalar v => build (.scalar v) frames .separator ts
    | .str s => build (.str s) frames .separator ts
    | .voidNumber | .voidStr => build .void frames .separator ts
    | .openArr => build root (.arr [] :: frames) .firstItem ts
    | .openObj => build root frames (.firstKey []) ts
    | .closeArr => match frames with
      | .arr done :: frames => build (.arr done.reverse true) frames .separator ts
      | frames => (breakOff root frames .firstItem, t :: ts)
    | _ => (breakOff root frames .value, t :: ts)
  | .arr done :: frames, .separator, t :: ts => match t with
    | .comma => build root (.arr (root :: done) :: frames) .value ts
    | .closeArr => build (.arr (root :: done).reverse true) frames .separator ts
    | _ => (breakOff root (.arr done :: frames) .separator, t :: ts)
  | .obj done key :: frames, .separator, t :: ts => match t with
    | .comma => build root frames (.key ((key, root) :: done)) ts
    | .closeObj => build (.obj ((key, root) :: done).reverse true) frames .separator ts
    | _ => (breakOff root (.obj done key :: frames) .separator, t :: ts)
  | frames, .firstKey done, t :: ts => match t with
    | .str s => build root frames (.colon done (some s)) ts
    | .voidStr => build root frames (.colon done none) ts
    | .closeObj => build (.obj done.reverse true) frames .separator ts
    | _ => (breakOff root frames (.firstKey done), t :: ts)
  | frames, .key done, t :: ts => match t with
    | .str s => build root frames (.colon done (some s)) ts
    | .voidStr => build root frames (.colon done none) ts
    | _ => (breakOff root frames (.key done), t :: ts)
  | frames, .colon done key, t :: ts => match t with
    | .colon => build root (.obj done key :: frames) .value ts
    | _ => (breakOff root frames (.colon done key), t :: ts)

/-- The reading of a text, and whether nothing follows its value. -/
def ofText (cs : List Char) : Reading × Bool :=
  let (r, rest) := build .cut [] .value (Token.ofText cs)
  (r, rest.isEmpty)

mutual

/-- The reading of a text that says just this value. -/
def ofJson : Json → Reading
  | .str s => .str s
  | .arr items => .arr (ofItems items) true
  | .obj members => .obj (ofMembers members) true
  | v => .scalar v

def ofItems : List Json → List Reading
  | [] => []
  | j :: rest => ofJson j :: ofItems rest

def ofMembers : List (String × Json) → List (Option String × Reading)
  | [] => []
  | (k, j) :: rest => (some k, ofJson j) :: ofMembers rest

end

mutual

/-- Whether a value can be passed over: its text keeps to the grammar. -/
def skippable : Reading → Bool
  | cut => false
  | arr items whole => skippableItems items && whole
  | obj members whole => skippableMembers members && whole
  | _ => true

/-- Whether all items can be passed over. -/
def skippableItems : List Reading → Bool
  | [] => true
  | r :: rest => skippable r && skippableItems rest

/-- Whether all members can be passed over. -/
def skippableMembers : List (Option String × Reading) → Bool
  | [] => true
  | (_, r) :: rest => skippable r && skippableMembers rest

end

mutual

/-- The value of a reading in normal form, if every part of it has a value and arrays and objects
are nested at most `depth` deep. Of members with the same key the last counts. -/
def freeForm? (depth : Nat) : Reading → Option FreeForm
  | scalar v => if h : v.isNormal = true then some ⟨v, h⟩ else none
  | str s => some ⟨.str s, rfl⟩
  | void => none
  | cut => none
  | arr items whole =>
    if depth = 0 ∨ whole = false then none
    else (freeItems? (depth - 1) items).map fun js =>
      ⟨.arr js.1, by simpa [Json.isNormal] using js.2⟩
  | obj members whole =>
    if depth = 0 ∨ whole = false then none
    else (freeMembers? (depth - 1) members ⟨.empty, by simp [SortedMap.empty]⟩).map fun m =>
      ⟨.obj m.1.entries, by
        simp only [Json.isNormal, Bool.and_eq_true]
        exact ⟨(Json.ascending_iff _).2 m.1.sorted, (Json.haveNormal_iff _).2 m.2⟩⟩

def freeItems? (depth : Nat) : List Reading → Option { js : List Json // Json.areNormal js = true }
  | [] => some ⟨[], rfl⟩
  | r :: rest => match freeForm? depth r with
    | none => none
    | some j => (freeItems? depth rest).map fun js =>
      ⟨j.json :: js.1, by simp [Json.areNormal, j.normal, js.2]⟩

/-- The values of members, put into those gathered so far. -/
def freeMembers? (depth : Nat) : List (Option String × Reading) →
    { m : SortedMap String Json // ∀ e ∈ m.entries, e.2.isNormal = true } →
    Option { m : SortedMap String Json // ∀ e ∈ m.entries, e.2.isNormal = true }
  | [], m => some m
  | (none, _) :: _, _ => none
  | (some k, r) :: rest, m => match freeForm? depth r with
    | none => none
    | some j => freeMembers? depth rest ⟨m.1.insert k j.json, fun e he => by
        rcases SortedMap.mem_insertEntry he with rfl | he
        · exact j.normal
        · exact m.2 e he⟩

end

end Reading

end DeviceClaims.Json
