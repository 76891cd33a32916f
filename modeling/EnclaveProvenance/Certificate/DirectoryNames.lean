import EnclaveProvenance.Der.ObjectIdentifier

/-!
Names of object identifiers, in families that share all arcs but the last. The families of
directories are attribute types, object classes, matching rules and name forms, each by the shortest
of its registered descriptors.
-/

namespace EnclaveProvenance

/-- Names by the arc that continues the arcs of the family. -/
structure NameFamily where
  arcs : List Nat
  names : List (Nat × String)
deriving DecidableEq, Repr

namespace NameFamily

/-- The octets decide: the same arcs in a longer spelling are another identifier, without a name. -/
def name? (family : NameFamily) (oid : Der.ObjectIdentifier) : Option String :=
  let stem := (Der.ObjectIdentifier.ofArcs family.arcs).content
  let matchesArc (arc : Nat) : Bool :=
    Der.ObjectIdentifier.arcOctets arc == oid.content.drop stem.length
  if stem.isPrefixOf oid.content then
    (family.names.find? fun entry => matchesArc entry.1).map Prod.snd
  else none

def standard : List NameFamily := [
  ⟨[2, 5, 4], [
    (0, "OBJECTCLASS"), (1, "ALIASEDOBJECTNAME"), (2, "KNOWLEDGEINFORMATION"), (3, "CN"),
    (4, "SN"), (5, "SERIALNUMBER"), (6, "C"), (7, "L"), (8, "ST"), (9, "STREET"), (10, "O"),
    (11, "OU"), (12, "TITLE"), (13, "DESCRIPTION"), (14, "SEARCHGUIDE"), (15, "BUSINESSCATEGORY"),
    (16, "POSTALADDRESS"), (17, "POSTALCODE"), (18, "POSTOFFICEBOX"),
    (19, "PHYSICALDELIVERYOFFICENAME"), (20, "TELEPHONENUMBER"), (21, "TELEXNUMBER"),
    (22, "TELETEXTERMINALIDENTIFIER"), (23, "FACSIMILETELEPHONENUMBER"), (24, "X121ADDRESS"),
    (25, "INTERNATIONALISDNNUMBER"), (26, "REGISTEREDADDRESS"), (27, "DESTINATIONINDICATOR"),
    (28, "PREFERREDDELIVERYMETHOD"), (29, "PRESENTATIONADDRESS"),
    (30, "SUPPORTEDAPPLICATIONCONTEXT"), (31, "MEMBER"), (32, "OWNER"), (33, "ROLEOCCUPANT"),
    (34, "SEEALSO"), (35, "USERPASSWORD"), (36, "USERCERTIFICATE"), (37, "CACERTIFICATE"),
    (38, "AUTHORITYREVOCATIONLIST"), (39, "CERTIFICATEREVOCATIONLIST"),
    (40, "CROSSCERTIFICATEPAIR"), (41, "NAME"), (42, "GIVENNAME"), (43, "INITIALS"),
    (44, "GENERATIONQUALIFIER"), (45, "X500UNIQUEIDENTIFIER"), (46, "DNQUALIFIER"),
    (47, "ENHANCEDSEARCHGUIDE"), (48, "PROTOCOLINFORMATION"), (49, "DISTINGUISHEDNAME"),
    (50, "UNIQUEMEMBER"), (51, "HOUSEIDENTIFIER"), (52, "SUPPORTEDALGORITHMS"),
    (53, "DELTAREVOCATIONLIST"), (54, "DMDNAME"), (65, "PSEUDONYM"), (72, "ID-AT-ROLE")]⟩,
  ⟨[2, 5, 6], [
    (0, "TOP"), (1, "ALIAS"), (2, "COUNTRY"), (3, "LOCALITY"), (4, "ORGANIZATION"),
    (5, "ORGANIZATIONALUNIT"), (6, "PERSON"), (7, "ORGANIZATIONALPERSON"),
    (8, "ORGANIZATIONALROLE"), (9, "GROUPOFNAMES"), (10, "RESIDENTIALPERSON"),
    (11, "APPLICATIONPROCESS"), (12, "APPLICATIONENTITY"), (13, "DSA"), (14, "DEVICE"),
    (15, "STRONGAUTHENTICATIONUSER"), (16, "CERTIFICATIONAUTHORITY"), (17, "GROUPOFUNIQUENAMES"),
    (18, "USERSECURITYINFORMATION"), (19, "CRLDISTRIBUTIONPOINT"), (20, "DMD"), (21, "PKIUSER"),
    (22, "PKICA"), (23, "DELTACRL")]⟩,
  ⟨[2, 5, 6, 16], [(2, "CERTIFICATIONAUTHORITY-V2")]⟩,
  ⟨[2, 5, 13], [
    (0, "OBJECTIDENTIFIERMATCH"), (1, "DISTINGUISHEDNAMEMATCH"), (2, "CASEIGNOREMATCH"),
    (3, "CASEIGNOREORDERINGMATCH"), (4, "CASEIGNORESUBSTRINGSMATCH"), (5, "CASEEXACTMATCH"),
    (6, "CASEEXACTORDERINGMATCH"), (7, "CASEEXACTSUBSTRINGSMATCH"), (8, "NUMERICSTRINGMATCH"),
    (9, "NUMERICSTRINGORDERINGMATCH"), (10, "NUMERICSTRINGSUBSTRINGSMATCH"),
    (11, "CASEIGNORELISTMATCH"), (12, "CASEIGNORELISTSUBSTRINGSMATCH"), (13, "BOOLEANMATCH"),
    (14, "INTEGERMATCH"), (15, "INTEGERORDERINGMATCH"), (16, "BITSTRINGMATCH"),
    (17, "OCTETSTRINGMATCH"), (18, "OCTETSTRINGORDERINGMATCH"),
    (19, "OCTETSTRINGSUBSTRINGSMATCH"), (20, "TELEPHONENUMBERMATCH"),
    (21, "TELEPHONENUMBERSUBSTRINGSMATCH"), (22, "PRESENTATIONADDRESSMATCH"),
    (23, "UNIQUEMEMBERMATCH"), (24, "PROTOCOLINFORMATIONMATCH"), (27, "GENERALIZEDTIMEMATCH"),
    (28, "GENERALIZEDTIMEORDERINGMATCH"), (29, "INTEGERFIRSTCOMPONENTMATCH"),
    (30, "OBJECTIDENTIFIERFIRSTCOMPONENTMATCH"), (31, "DIRECTORYSTRINGFIRSTCOMPONENTMATCH"),
    (32, "WORDMATCH"), (33, "KEYWORDMATCH"), (34, "CERTIFICATEEXACTMATCH"),
    (35, "CERTIFICATEMATCH"), (36, "CERTIFICATEPAIREXACTMATCH"), (37, "CERTIFICATEPAIRMATCH"),
    (38, "CERTIFICATELISTEXACTMATCH"), (39, "CERTIFICATELISTMATCH"),
    (40, "ALGORITHMIDENTIFIERMATCH"), (41, "STOREDPREFIXMATCH")]⟩,
  ⟨[2, 5, 17], [(0, "SUBENTRY"), (2, "COLLECTIVEATTRIBUTESUBENTRY")]⟩,
  ⟨[2, 5, 18], [
    (1, "CREATETIMESTAMP"), (2, "MODIFYTIMESTAMP"), (3, "CREATORSNAME"), (4, "MODIFIERSNAME"),
    (5, "ADMINISTRATIVEROLE"), (6, "SUBTREESPECIFICATION"), (7, "COLLECTIVEEXCLUSIONS"),
    (10, "SUBSCHEMASUBENTRY"), (12, "COLLECTIVEATTRIBUTESUBENTRIES")]⟩,
  ⟨[2, 5, 20], [(1, "SUBSCHEMA")]⟩,
  ⟨[2, 5, 21], [
    (1, "DITSTRUCTURERULES"), (2, "DITCONTENTRULES"), (4, "MATCHINGRULES"), (5, "ATTRIBUTETYPES"),
    (6, "OBJECTCLASSES"), (7, "NAMEFORMS"), (8, "MATCHINGRULEUSE"), (9, "STRUCTURALOBJECTCLASS"),
    (10, "GOVERNINGSTRUCTURERULE")]⟩,
  ⟨[2, 5, 23], [
    (1, "AUTONOMOUSAREA"), (2, "ACCESSCONTROLSPECIFICAREA"), (3, "ACCESSCONTROLINNERAREA"),
    (4, "SUBSCHEMAADMINSPECIFICAREA"), (5, "COLLECTIVEATTRIBUTESPECIFICAREA"),
    (6, "COLLECTIVEATTRIBUTEINNERAREA")]⟩]

def collective : List NameFamily :=
  ([(7, "C-L"), (8, "C-ST"), (9, "C-STREET"), (10, "C-O"), (11, "C-OU"), (16, "C-POSTALADDRESS"),
    (17, "C-POSTALCODE"), (18, "C-POSTOFFICEBOX"), (19, "C-PHYSICALDELIVERYOFFICENAME"),
    (20, "C-TELEPHONENUMBER"), (21, "C-TELEXNUMBER"), (23, "C-FACSIMILETELEPHONENUMBER"),
    (25, "C-INTERNATIONALISDNNUMBER")] : List (Nat × String)).map
    fun entry => ⟨[2, 5, 4, entry.1], [(1, entry.2)]⟩

def people : List NameFamily := [
  ⟨[0, 9, 2342, 19200300, 100, 1], [
    (1, "UID"), (2, "TEXTENCODEDORADDRESS"), (3, "MAIL"), (4, "INFO"), (5, "DRINK"),
    (6, "ROOMNUMBER"), (7, "PHOTO"), (8, "USERCLASS"), (9, "HOST"), (10, "MANAGER"),
    (11, "DOCUMENTIDENTIFIER"), (12, "DOCUMENTTITLE"), (13, "DOCUMENTVERSION"),
    (14, "DOCUMENTAUTHOR"), (15, "DOCUMENTLOCATION"), (20, "HOMEPHONE"), (21, "SECRETARY"),
    (22, "OTHERMAILBOX"), (23, "LASTMODIFIEDTIME"), (24, "LASTMODIFIEDBY"), (25, "DC"),
    (26, "ARECORD"), (27, "MDRECORD"), (28, "MXRECORD"), (29, "NSRECORD"), (30, "SOARECORD"),
    (31, "CNAMERECORD"), (37, "ASSOCIATEDDOMAIN"), (38, "ASSOCIATEDNAME"),
    (39, "HOMEPOSTALADDRESS"), (40, "PERSONALTITLE"), (41, "MOBILE"), (42, "PAGER"), (43, "CO"),
    (44, "UNIQUEIDENTIFIER"), (45, "ORGANIZATIONALSTATUS"), (46, "JANETMAILBOX"),
    (47, "MAILPREFERENCEOPTION"), (48, "BUILDINGNAME"), (49, "DSAQUALITY"),
    (50, "SINGLELEVELQUALITY"), (51, "SUBTREEMINIMUMQUALITY"), (52, "SUBTREEMAXIMUMQUALITY"),
    (53, "PERSONALSIGNATURE"), (54, "DITREDIRECT"), (55, "AUDIO"), (56, "DOCUMENTPUBLISHER"),
    (60, "JPEGPHOTO")]⟩,
  ⟨[0, 9, 2342, 19200300, 100, 4], [
    (3, "PILOTOBJECT"), (4, "PILOTPERSON"), (5, "ACCOUNT"), (6, "DOCUMENT"), (7, "ROOM"),
    (9, "DOCUMENTSERIES"), (13, "DOMAIN"), (14, "RFC822LOCALPART"), (15, "DNSDOMAIN"),
    (17, "DOMAINRELATEDOBJECT"), (18, "FRIENDLYCOUNTRY"), (19, "SIMPLESECURITYOBJECT"),
    (20, "PILOTORGANIZATION"), (21, "PILOTDSA"), (22, "QUALITYLABELLEDDATA")]⟩,
  ⟨[2, 16, 840, 1, 113730, 3, 1], [
    (1, "CARLICENSE"), (2, "DEPARTMENTNUMBER"), (3, "EMPLOYEENUMBER"), (4, "EMPLOYEETYPE"),
    (34, "REF"), (39, "PREFERREDLANGUAGE"), (40, "USERSMIMECERTIFICATE"), (216, "USERPKCS12"),
    (241, "DISPLAYNAME")]⟩,
  ⟨[2, 16, 840, 1, 113730, 3, 2], [(2, "INETORGPERSON"), (6, "REFERRAL")]⟩]

def operational : List NameFamily := [
  ⟨[1, 3, 6, 1, 1], [(4, "VENDORNAME"), (5, "VENDORVERSION"), (20, "ENTRYDN")]⟩,
  ⟨[1, 3, 6, 1, 1, 3], [(1, "UIDOBJECT")]⟩,
  ⟨[1, 3, 6, 1, 1, 16], [(2, "UUIDMATCH"), (3, "UUIDORDERINGMATCH"), (4, "ENTRYUUID")]⟩,
  ⟨[1, 3, 6, 1, 1, 23], [(1, "JIDOBJECT"), (2, "JID")]⟩,
  ⟨[1, 3, 6, 1, 4, 1, 250, 1], [(57, "LABELEDURI")]⟩,
  ⟨[1, 3, 6, 1, 4, 1, 250, 3], [(15, "LABELEDURIOBJECT")]⟩,
  ⟨[1, 3, 6, 1, 4, 1, 453, 7, 1], [
    (1, "SUBTREE"), (2, "TABLE"), (3, "TABLEENTRY"), (4, "TEXTTABLEENTRY"),
    (5, "DISTINGUISHEDNAMETABLEENTRY"), (6, "RFC822TOX400MAPPING"), (7, "X400TORFC822MAPPING"),
    (8, "OMITTEDORADDRESSCOMPONENT"), (9, "MIXERGATEWAY")]⟩,
  ⟨[1, 3, 6, 1, 4, 1, 453, 7, 2], [
    (1, "TEXTTABLEKEY"), (2, "TEXTTABLEVALUE"), (3, "ASSOCIATEDX400GATEWAY"),
    (6, "ASSOCIATEDORADDRESS"), (7, "ORADDRESSCOMPONENTTYPE"), (8, "ASSOCIATEDINTERNETGATEWAY"),
    (9, "MCGAMTABLES")]⟩,
  ⟨[1, 3, 6, 1, 4, 1, 1466], [(344, "DCOBJECT"), (345, "DOMAINNAMEFORM")]⟩,
  ⟨[1, 3, 6, 1, 4, 1, 1466, 101, 119], [
    (2, "DYNAMICOBJECT"), (3, "ENTRYTTL"), (4, "DYNAMICSUBTREES")]⟩,
  ⟨[1, 3, 6, 1, 4, 1, 1466, 101, 120], [
    (5, "NAMINGCONTEXTS"), (6, "ALTSERVER"), (7, "SUPPORTEDEXTENSION"), (13, "SUPPORTEDCONTROL"),
    (14, "SUPPORTEDSASLMECHANISMS"), (15, "SUPPORTEDLDAPVERSION"), (16, "LDAPSYNTAXES"),
    (111, "EXTENSIBLEOBJECT")]⟩,
  ⟨[1, 3, 6, 1, 4, 1, 1466, 109, 114], [
    (1, "CASEEXACTIA5MATCH"), (2, "CASEIGNOREIA5MATCH"), (3, "CASEIGNOREIA5SUBSTRINGSMATCH")]⟩,
  ⟨[1, 3, 6, 1, 4, 1, 4203, 1, 3], [(5, "SUPPORTEDFEATURES")]⟩,
  ⟨[1, 2, 36, 79672281, 1, 13], [
    (2, "COMPONENTFILTERMATCH"), (3, "RDNMATCH"), (5, "PRESENTMATCH"), (6, "ALLCOMPONENTSMATCH"),
    (7, "DIRECTORYCOMPONENTSMATCH")]⟩,
  ⟨[1, 2, 840, 113556, 1, 4], [
    (478, "CALCALURI"), (479, "CALFBURL"), (480, "CALCAPURI"), (481, "CALCALADRURI"),
    (482, "CALOTHERCALURIS"), (483, "CALOTHERFBURLS"), (484, "CALOTHERCAPURIS"),
    (485, "CALOTHERCALADRURIS")]⟩,
  ⟨[1, 2, 840, 113556, 1, 5], [(87, "CALENTRY")]⟩,
  ⟨[1, 3, 6, 1, 4, 1, 16572, 2, 1], [(1, "LDIFLOCATIONURLOBJECT"), (2, "PROVIDER")]⟩,
  ⟨[1, 3, 6, 1, 4, 1, 16572, 2, 2], [
    (1, "PROVIDERCERTIFICATEHASH"), (2, "PROVIDERCERTIFICATE"), (3, "PROVIDERNAME"),
    (4, "MAILRECEIPT"), (5, "MANAGEDDOMAINS"), (6, "LDIFLOCATIONURL"), (7, "PROVIDERUNIT")]⟩]

def service : List NameFamily := [
  ⟨[1, 3, 6, 1, 1, 1, 1], [
    (0, "UIDNUMBER"), (1, "GIDNUMBER"), (2, "GECOS"), (3, "HOMEDIRECTORY"), (4, "LOGINSHELL"),
    (5, "SHADOWLASTCHANGE"), (6, "SHADOWMIN"), (7, "SHADOWMAX"), (8, "SHADOWWARNING"),
    (9, "SHADOWINACTIVE"), (10, "SHADOWEXPIRE"), (11, "SHADOWFLAG"), (12, "MEMBERUID"),
    (13, "MEMBERNISNETGROUP"), (14, "NISNETGROUPTRIPLE"), (15, "IPSERVICEPORT"),
    (16, "IPSERVICEPROTOCOL"), (17, "IPPROTOCOLNUMBER"), (18, "ONCRPCNUMBER"),
    (19, "IPHOSTNUMBER"), (20, "IPNETWORKNUMBER"), (21, "IPNETMASKNUMBER"), (22, "MACADDRESS"),
    (23, "BOOTPARAMETER"), (24, "BOOTFILE"), (26, "NISMAPNAME"), (27, "NISMAPENTRY")]⟩,
  ⟨[1, 3, 6, 1, 1, 1, 2], [
    (0, "POSIXACCOUNT"), (1, "SHADOWACCOUNT"), (2, "POSIXGROUP"), (3, "IPSERVICE"),
    (4, "IPPROTOCOL"), (5, "ONCRPC"), (6, "IPHOST"), (7, "IPNETWORK"), (8, "NISNETGROUP"),
    (9, "NISMAP"), (10, "NISOBJECT"), (11, "IEEE802DEVICE"), (12, "BOOTABLEDEVICE")]⟩,
  ⟨[1, 3, 6, 1, 1, 6, 1], [
    (1, "PCIMPOLICY"), (2, "PCIMGROUP"), (3, "PCIMGROUPAUXCLASS"), (4, "PCIMGROUPINSTANCE"),
    (5, "PCIMRULE"), (6, "PCIMRULEAUXCLASS"), (7, "PCIMRULEINSTANCE"),
    (8, "PCIMRULECONDITIONASSOCIATION"), (9, "PCIMRULEVALIDITYASSOCIATION"),
    (10, "PCIMRULEACTIONASSOCIATION"), (11, "PCIMCONDITIONAUXCLASS"), (12, "PCIMTPCAUXCLASS"),
    (13, "PCIMCONDITIONVENDORAUXCLASS"), (14, "PCIMACTIONAUXCLASS"),
    (15, "PCIMACTIONVENDORAUXCLASS"), (16, "PCIMPOLICYINSTANCE"), (17, "PCIMELEMENTAUXCLASS"),
    (18, "PCIMREPOSITORY"), (19, "PCIMREPOSITORYAUXCLASS"), (20, "PCIMREPOSITORYINSTANCE"),
    (21, "PCIMSUBTREESPTRAUXCLASS"), (22, "PCIMGROUPCONTAINMENTAUXCLASS"),
    (23, "PCIMRULECONTAINMENTAUXCLASS")]⟩,
  ⟨[1, 3, 6, 1, 1, 6, 2], [
    (3, "PCIMKEYWORDS"), (4, "PCIMGROUPNAME"), (5, "PCIMRULENAME"), (6, "PCIMRULEENABLED"),
    (7, "PCIMRULECONDITIONLISTTYPE"), (8, "PCIMRULECONDITIONLIST"), (9, "PCIMRULEACTIONLIST"),
    (10, "PCIMRULEVALIDITYPERIODLIST"), (11, "PCIMRULEUSAGE"), (12, "PCIMRULEPRIORITY"),
    (13, "PCIMRULEMANDATORY"), (14, "PCIMRULESEQUENCEDACTIONS"), (15, "PCIMROLES"),
    (16, "PCIMCONDITIONGROUPNUMBER"), (17, "PCIMCONDITIONNEGATED"), (18, "PCIMCONDITIONNAME"),
    (19, "PCIMCONDITIONDN"), (20, "PCIMVALIDITYCONDITIONNAME"), (21, "PCIMTIMEPERIODCONDITIONDN"),
    (22, "PCIMACTIONNAME"), (23, "PCIMACTIONORDER"), (24, "PCIMACTIONDN"), (25, "PCIMTPCTIME"),
    (26, "PCIMTPCMONTHOFYEARMASK"), (27, "PCIMTPCDAYOFMONTHMASK"), (28, "PCIMTPCDAYOFWEEKMASK"),
    (29, "PCIMTPCTIMEOFDAYMASK"), (30, "PCIMTPCLOCALORUTCTIME"), (31, "PCIMVENDORCONSTRAINTDATA"),
    (32, "PCIMVENDORCONSTRAINTENCODING"), (33, "PCIMVENDORACTIONDATA"),
    (34, "PCIMVENDORACTIONENCODING"), (35, "PCIMPOLICYINSTANCENAME"), (36, "PCIMREPOSITORYNAME"),
    (37, "PCIMSUBTREESAUXCONTAINEDSET"), (38, "PCIMGROUPSAUXCONTAINEDSET"),
    (39, "PCIMRULESAUXCONTAINEDSET")]⟩,
  ⟨[1, 3, 6, 1, 1, 10, 4], [
    (1, "UDDIBUSINESSKEY"), (2, "UDDIAUTHORIZEDNAME"), (3, "UDDIOPERATOR"), (4, "UDDINAME"),
    (5, "UDDIDESCRIPTION"), (6, "UDDIDISCOVERYURLS"), (7, "UDDIUSETYPE"), (8, "UDDIPERSONNAME"),
    (9, "UDDIPHONE"), (10, "UDDIEMAIL"), (11, "UDDISORTCODE"), (12, "UDDITMODELKEY"),
    (13, "UDDIADDRESSLINE"), (14, "UDDIIDENTIFIERBAG"), (15, "UDDICATEGORYBAG"),
    (16, "UDDIKEYEDREFERENCE"), (17, "UDDISERVICEKEY"), (18, "UDDIBINDINGKEY"),
    (19, "UDDIACCESSPOINT"), (20, "UDDIHOSTINGREDIRECTOR"), (21, "UDDIINSTANCEDESCRIPTION"),
    (22, "UDDIINSTANCEPARMS"), (23, "UDDIOVERVIEWDESCRIPTION"), (24, "UDDIOVERVIEWURL"),
    (25, "UDDIFROMKEY"), (26, "UDDITOKEY"), (27, "UDDIUUID"), (28, "UDDIISHIDDEN"),
    (29, "UDDIISPROJECTION"), (30, "UDDILANG"), (31, "UDDIV3BUSINESSKEY"),
    (32, "UDDIV3SERVICEKEY"), (33, "UDDIV3BINDINGKEY"), (34, "UDDIV3TMODELKEY"),
    (35, "UDDIV3DIGITALSIGNATURE"), (36, "UDDIV3NODEID"), (37, "UDDIV3ENTITYMODIFICATIONTIME"),
    (38, "UDDIV3SUBSCRIPTIONKEY"), (39, "UDDIV3SUBSCRIPTIONFILTER"),
    (40, "UDDIV3NOTIFICATIONINTERVAL"), (41, "UDDIV3MAXENTITIES"), (42, "UDDIV3EXPIRESAFTER"),
    (43, "UDDIV3BRIEFRESPONSE"), (44, "UDDIV3ENTITYKEY"), (45, "UDDIV3ENTITYCREATIONTIME"),
    (46, "UDDIV3ENTITYDELETIONTIME")]⟩,
  ⟨[1, 3, 6, 1, 1, 10, 6], [
    (1, "UDDIBUSINESSENTITY"), (2, "UDDICONTACT"), (3, "UDDIADDRESS"), (4, "UDDIBUSINESSSERVICE"),
    (5, "UDDIBINDINGTEMPLATE"), (6, "UDDITMODELINSTANCEINFO"), (7, "UDDITMODEL"),
    (8, "UDDIPUBLISHERASSERTION"), (9, "UDDIV3SUBSCRIPTION"), (10, "UDDIV3ENTITYOBITUARY")]⟩,
  ⟨[1, 3, 6, 1, 1, 10, 15], [
    (1, "UDDIBUSINESSENTITYNAMEFORM"), (2, "UDDICONTACTNAMEFORM"), (3, "UDDIADDRESSNAMEFORM"),
    (4, "UDDIBUSINESSSERVICENAMEFORM"), (5, "UDDIBINDINGTEMPLATENAMEFORM"),
    (6, "UDDITMODELINSTANCEINFONAMEFORM"), (7, "UDDITMODELNAMEFORM"),
    (8, "UDDIPUBLISHERASSERTIONNAMEFORM"), (9, "UDDIV3SUBSCRIPTIONNAMEFORM"),
    (10, "UDDIV3ENTITYOBITUARYNAMEFORM")]⟩,
  ⟨[1, 3, 6, 1, 1, 11, 1], [(1, "VPIMUSER")]⟩,
  ⟨[1, 3, 6, 1, 1, 11, 2], [
    (1, "VPIMTELEPHONENUMBER"), (2, "VPIMRFC822MAILBOX"), (3, "VPIMSPOKENNAME"),
    (4, "VPIMSUPPORTEDUABEHAVIORS"), (5, "VPIMSUPPORTEDAUDIOMEDIATYPES"),
    (6, "VPIMSUPPORTEDMESSAGECONTEXT"), (7, "VPIMTEXTNAME"), (8, "VPIMEXTENDEDABSENCESTATUS"),
    (9, "VPIMMAXMESSAGESIZE"), (10, "VPIMSUBMAILBOXES")]⟩,
  ⟨[1, 3, 6, 1, 4, 1, 11, 1, 3, 1, 1], [
    (0, "DEFAULTSERVERLIST"), (1, "DEFAULTSEARCHBASE"), (2, "PREFERREDSERVERLIST"),
    (3, "SEARCHTIMELIMIT"), (4, "BINDTIMELIMIT"), (5, "FOLLOWREFERRALS"),
    (6, "AUTHENTICATIONMETHOD"), (7, "PROFILETTL"), (9, "ATTRIBUTEMAP"), (10, "CREDENTIALLEVEL"),
    (11, "OBJECTCLASSMAP"), (12, "DEFAULTSEARCHSCOPE"), (13, "SERVICECREDENTIALLEVEL"),
    (14, "SERVICESEARCHDESCRIPTOR"), (15, "SERVICEAUTHENTICATIONMETHOD"),
    (16, "DEREFERENCEALIASES")]⟩,
  ⟨[1, 3, 6, 1, 4, 1, 11, 1, 3, 1, 2], [(5, "DUACONFIGPROFILE")]⟩,
  ⟨[1, 3, 18, 0, 2, 4], [
    (1107, "PRINTER-XRI-SUPPORTED"), (1108, "PRINTER-ALIASES"),
    (1109, "PRINTER-CHARSET-CONFIGURED"), (1110, "PRINTER-JOB-PRIORITY-SUPPORTED"),
    (1111, "PRINTER-JOB-K-OCTETS-SUPPORTED"), (1112, "PRINTER-CURRENT-OPERATOR"),
    (1113, "PRINTER-SERVICE-PERSON"), (1114, "PRINTER-DELIVERY-ORIENTATION-SUPPORTED"),
    (1115, "PRINTER-STACKING-ORDER-SUPPORTED"), (1116, "PRINTER-OUTPUT-FEATURES-SUPPORTED"),
    (1117, "PRINTER-MEDIA-LOCAL-SUPPORTED"), (1118, "PRINTER-COPIES-SUPPORTED"),
    (1119, "PRINTER-NATURAL-LANGUAGE-CONFIGURED"), (1120, "PRINTER-PRINT-QUALITY-SUPPORTED"),
    (1121, "PRINTER-RESOLUTION-SUPPORTED"), (1122, "PRINTER-MEDIA-SUPPORTED"),
    (1123, "PRINTER-SIDES-SUPPORTED"), (1124, "PRINTER-NUMBER-UP-SUPPORTED"),
    (1125, "PRINTER-FINISHINGS-SUPPORTED"), (1126, "PRINTER-PAGES-PER-MINUTE-COLOR"),
    (1127, "PRINTER-PAGES-PER-MINUTE"), (1128, "PRINTER-COMPRESSION-SUPPORTED"),
    (1129, "PRINTER-COLOR-SUPPORTED"), (1130, "PRINTER-DOCUMENT-FORMAT-SUPPORTED"),
    (1131, "PRINTER-CHARSET-SUPPORTED"), (1132, "PRINTER-MULTIPLE-DOCUMENT-JOBS-SUPPORTED"),
    (1133, "PRINTER-IPP-VERSIONS-SUPPORTED"), (1134, "PRINTER-MORE-INFO"), (1135, "PRINTER-NAME"),
    (1136, "PRINTER-LOCATION"), (1137, "PRINTER-GENERATED-NATURAL-LANGUAGE-SUPPORTED"),
    (1138, "PRINTER-MAKE-AND-MODEL"), (1139, "PRINTER-INFO"), (1140, "PRINTER-URI")]⟩,
  ⟨[1, 3, 18, 0, 2, 6], [
    (253, "PRINTERLPR"), (254, "SLPSERVICEPRINTER"), (255, "PRINTERSERVICE"), (256, "PRINTERIPP"),
    (257, "PRINTERSERVICEAUXCLASS"), (258, "PRINTERABSTRACT")]⟩,
  ⟨[1, 3, 18, 0, 2, 24, 46, 1], [
    (101, "PRINTER-DEVICE-ID"), (102, "PRINTER-DEVICE-SERVICE-COUNT"), (104, "PRINTER-UUID"),
    (105, "PRINTER-CHARGE-INFO"), (106, "PRINTER-CHARGE-INFO-URI"), (107, "PRINTER-GEO-LOCATION"),
    (108, "PRINTER-IPP-FEATURES-SUPPORTED")]⟩]

def directory : List NameFamily := standard ++ collective ++ people ++ operational ++ service

end NameFamily

end EnclaveProvenance
