import DaraChat.Basic.Str
import DaraChat.Lib.Keyed

set_option autoImplicit false

/-! # The group container (`GroupContainer.h`, `GroupContainer.cpp`)

All groups share one flat vector of members, `myGroups`; a group is the set of entries with its
id. Each operation returns a `GroupInfo` and the container after it. `std::time(nullptr)` is the
parameter `now`, in seconds; the random part of a new group id is the parameter `uuid`. The
console output and the members that only tests and dumps use are left out.
-/

namespace DaraChat

/-- `std::time_t`, in seconds. -/
abbrev Time := Int

/-! ## Data -/

/-- `class GroupMember`. The constructor reads the clock for `storeTime`. -/
structure GroupMember where
  name : Str := []
  isLeader : Bool := false
  isOnline : Bool := false
  groupId : Str := []
  zone : Str := []
  health : Str := []
  storeTime : Time
  deriving DecidableEq, Repr

/-- `struct GroupInviteData`. -/
structure GroupInviteData where
  leaderName : Str
  memberName : Str
  storeTime : Time
  deriving DecidableEq, Repr

/-- `struct GroupInfo`. -/
structure GroupInfo where
  groupId : Str := []
  leaderName : Str := []
  isLeader : Bool := false
  memberCount : Int := 0
  errorCode : Int := 0
  groupMembers : List GroupMember := []
  deriving DecidableEq, Repr

/-- `class GroupContainer`: its two vectors. -/
structure GroupContainer where
  myGroups : List GroupMember := []
  myInvites : List GroupInviteData := []
  deriving DecidableEq, Repr

/-- `MyGroupPrefix`. -/
def myGroupPrefix : Str := "group_".toList

/-- `MyMaxGroupMembers`. -/
def myMaxGroupMembers : Int := 6

/-! ### Error codes -/

def daraGroupSuccess : Int := 1
def daraGroupIsInAnotherGroup : Int := -2
def daraGroupIsNotLeader : Int := -4
def daraGroupIsNotMember : Int := -5
def daraGroupErrorFull : Int := -6
def daraGroupIsNotMemberOfAnyGroup : Int := -7
def daraGroupIsAlreadyInGroup : Int := -8
def daraGroupLeaderEmpty : Int := -10
def daraGroupMemberAlreadyInGroup : Int := -11
def daraGroupLeaderHasNoGroup : Int := -12
def daraGroupCannotKickSelf : Int := -13

/-! ## Group information -/

/-- `GroupInfo::SerializeToSend`. -/
def GroupInfo.serializeToSend (info : GroupInfo) : Str :=
  info.groupMembers.foldl
    (fun serialized member =>
      serialized ++ ";".toList ++ member.name ++ ",".toList
        ++ (if member.isOnline then "1".toList else "0".toList))
    (info.groupId ++ ";".toList ++ info.leaderName ++ ";".toList ++ boolToString info.isLeader
      ++ ";".toList ++ intToString info.memberCount ++ ";".toList ++ intToString info.errorCode)

namespace GroupContainer

/-- The body of the counting loop of `GetGroupInfo` and `GetGroupInfoByGroupId`; the two differ
in what they store in `isLeader` when they meet a leader. -/
def countMember (isLeader : GroupMember → Bool) (groupInfo : GroupInfo) (member : GroupMember) :
    GroupInfo :=
  let groupInfo :=
    if member.groupId = groupInfo.groupId then
      { groupInfo with
        memberCount := groupInfo.memberCount + 1
        groupMembers := groupInfo.groupMembers ++ [member] }
    else groupInfo
  if member.groupId = groupInfo.groupId ∧ member.isLeader = true then
    { groupInfo with leaderName := member.name, isLeader := isLeader member }
  else groupInfo

/-- The id of the first entry with the name; the first loop of `GetGroupInfo`. -/
def groupIdOf (c : GroupContainer) (memberName : Str) : Str :=
  match c.myGroups.find? fun member => member.name = memberName with
  | some member => member.groupId
  | none => []

/-- `GroupContainer::GetGroupInfo`. -/
def getGroupInfo (c : GroupContainer) (memberName : Str) : GroupInfo :=
  let groupId := c.groupIdOf memberName
  if groupId = [] then { errorCode := daraGroupIsNotMemberOfAnyGroup }
  else
    c.myGroups.foldl (countMember fun member => decide (member.name = memberName))
      { groupId := groupId }

/-- `GroupContainer::GetCurrentGroupId`. -/
def getCurrentGroupId (c : GroupContainer) (memberName : Str) : GroupInfo :=
  c.getGroupInfo memberName

/-- `GroupContainer::GetGroupInfoByGroupId`. -/
def getGroupInfoByGroupId (c : GroupContainer) (groupId : Str) : GroupInfo :=
  c.myGroups.foldl (countMember fun _ => true) { groupId := groupId }

/-- `GroupContainer::GetNewGroupId`; `uuid` is the random text it draws. -/
def getNewGroupId (uuid : Str) : Str := myGroupPrefix ++ uuid

/-- `GroupContainer::GetGroupTopic`. -/
def getGroupTopic (groupId : Str) : Str :=
  if groupId = [] then []
  else if startsWith groupId myGroupPrefix then groupId
  else myGroupPrefix ++ groupId

/-! ## Commands -/

/-- `GroupContainer::GroupStartGroup`. -/
def groupStartGroup (c : GroupContainer) (now : Time) (uuid leaderName : Str) :
    GroupInfo × GroupContainer :=
  let retInfo := c.getGroupInfo leaderName
  if retInfo.groupId ≠ [] then ({ retInfo with errorCode := daraGroupMemberAlreadyInGroup }, c)
  else
    let newMember : GroupMember :=
      { name := leaderName, groupId := getNewGroupId uuid, isLeader := true, isOnline := true,
        storeTime := now }
    ({ groupId := newMember.groupId, leaderName := newMember.name, isLeader := newMember.isLeader,
       memberCount := 1, errorCode := 0, groupMembers := [newMember] },
     { c with myGroups := c.myGroups ++ [newMember] })

/-- `GroupContainer::GroupJoin`. -/
def groupJoin (c : GroupContainer) (now : Time) (memberName leaderName : Str) :
    GroupInfo × GroupContainer :=
  if leaderName = [] then ({ errorCode := daraGroupLeaderEmpty }, c)
  else
    let leaderInfo := c.getGroupInfo leaderName
    if leaderInfo.groupId = [] then
      ({ leaderInfo with errorCode := daraGroupLeaderHasNoGroup }, c)
    else if leaderInfo.memberCount ≥ myMaxGroupMembers then
      ({ leaderInfo with groupId := [], errorCode := daraGroupErrorFull }, c)
    else
      let memberInfo := c.getGroupInfo memberName
      if memberInfo.groupId ≠ [] then
        ({ memberInfo with errorCode := daraGroupMemberAlreadyInGroup }, c)
      else
        let newMember : GroupMember :=
          { name := memberName, groupId := leaderInfo.groupId, isLeader := false,
            isOnline := true, storeTime := now }
        ({ leaderInfo with
           memberCount := leaderInfo.memberCount + 1
           groupMembers := leaderInfo.groupMembers ++ [newMember] },
         { c with myGroups := c.myGroups ++ [newMember] })

/-- `GroupContainer::GroupInvite`; it changes nothing. -/
def groupInvite (c : GroupContainer) (memberName leaderName : Str) : GroupInfo :=
  let leaderInfo := c.getGroupInfo leaderName
  let memberInfo := c.getGroupInfo memberName
  if leaderInfo.isLeader ≠ true then
    { leaderInfo with groupId := [], memberCount := 0, errorCode := daraGroupIsNotLeader }
  else if memberInfo.groupId ≠ [] ∧ memberInfo.groupId = leaderInfo.groupId then
    { memberInfo with errorCode := daraGroupIsAlreadyInGroup }
  else if memberInfo.groupId ≠ [] ∧ memberInfo.memberCount > 1 then
    { memberInfo with errorCode := daraGroupIsInAnotherGroup, groupId := [], memberCount := 0 }
  else { leaderInfo with errorCode := daraGroupSuccess }

/-- The erase-remove of all entries with the name. -/
def eraseMember (c : GroupContainer) (memberName : Str) : GroupContainer :=
  { c with myGroups := c.myGroups.filter fun member => member.name ≠ memberName }

/-- `GroupContainer::GroupKickMember`. -/
def groupKickMember (c : GroupContainer) (memberName leaderName : Str) :
    GroupInfo × GroupContainer :=
  if memberName = leaderName then ({ errorCode := daraGroupCannotKickSelf }, c)
  else
    let leaderInfo := c.getGroupInfo leaderName
    if leaderInfo.isLeader ≠ true then
      ({ leaderInfo with errorCode := daraGroupIsNotLeader, groupId := [], memberCount := 0 }, c)
    else
      let memberInfo := c.getGroupInfo memberName
      if memberInfo.groupId ≠ leaderInfo.groupId then
        ({ memberInfo with errorCode := daraGroupIsNotMember }, c)
      else
        let c := c.eraseMember memberName
        (c.getGroupInfo leaderName, c)

/-- `GroupContainer::AssignLeader`. -/
def assignLeader (c : GroupContainer) (groupId : Str) : GroupContainer :=
  { c with
    myGroups := Keyed.markFirst (fun member => member.groupId)
      (fun isLeader member => { member with isLeader := isLeader }) groupId false c.myGroups }

/-- `GroupContainer::GroupDisband`. -/
def groupDisband (c : GroupContainer) (memberName : Str) : GroupInfo × GroupContainer :=
  let memberInfo := c.getGroupInfo memberName
  let wasLeader := memberInfo.leaderName = memberName
  -- invitations of a group that ceases to exist go with it
  let c :=
    if memberInfo.memberCount = 1 then
      { c with myInvites := c.myInvites.filter fun invite => invite.leaderName ≠ memberName }
    else c
  let c := c.eraseMember memberName
  let c := if wasLeader then c.assignLeader memberInfo.groupId else c
  ({ memberInfo with
     errorCode := daraGroupSuccess, groupId := [], memberCount := 0, leaderName := [] }, c)

/-! ## Presence -/

/-- `GroupContainer::AliveMsg`. -/
def aliveMsg (c : GroupContainer) (now : Time) (memberAlive : GroupMember) : GroupContainer :=
  { c with
    myGroups := Keyed.modifyFirst (fun member => member.name = memberAlive.name)
      (fun member =>
        { member with
          zone := memberAlive.zone, health := memberAlive.health, storeTime := now,
          isOnline := true })
      c.myGroups }

/-- `GroupContainer::SetMemberOnline`; the flag says whether `isOnline` changed. -/
def setMemberOnline (c : GroupContainer) (now : Time) (memberName : Str) (online : Bool) :
    Bool × GroupContainer :=
  match c.myGroups.find? fun member => member.name = memberName with
  | none => (false, c)
  | some member =>
      (member.isOnline != online,
       { c with
         myGroups := Keyed.modifyFirst (fun member => member.name = memberName)
           (fun member =>
             { member with
               isOnline := online
               storeTime := if online then now else member.storeTime })
           c.myGroups })

/-! ## Invitations -/

/-- `GroupContainer::RemoveOldInvites`. -/
def removeOldInvites (c : GroupContainer) (now : Time) : GroupContainer :=
  let maxAgeSeconds := 180
  { c with myInvites := c.myInvites.filter fun entry => ¬ (now - entry.storeTime > maxAgeSeconds) }

/-- `GroupContainer::RemoveInvite`. -/
def removeInvite (c : GroupContainer) (leaderName memberName : Str) : GroupContainer :=
  { c with
    myInvites := c.myInvites.filter fun invite =>
      ¬ (invite.leaderName = leaderName ∧ invite.memberName = memberName) }

/-- `GroupContainer::CheckHasInvited`. -/
def checkHasInvited (c : GroupContainer) (leaderName memberName : Str) : Bool :=
  c.myInvites.any fun invite =>
    strcasecmpEq invite.leaderName leaderName && strcasecmpEq invite.memberName memberName

/-- `GroupContainer::AddInvite`. -/
def addInvite (c : GroupContainer) (now : Time) (leaderName memberName : Str) : GroupContainer :=
  { c with
    myInvites := c.myInvites ++
      [{ leaderName := leaderName, memberName := memberName, storeTime := now }] }

end GroupContainer

end DaraChat
