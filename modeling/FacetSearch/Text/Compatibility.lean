/-!
# Compatibility characters

Characters that only stand for others: letters of another width or shape, ligatures, numbers in circles,
and characters that were taken twice into the standard. The tables hold version 3.2 of the Unicode
standard, but for the characters that consist of a letter and a mark.
-/

namespace FacetSearch.Compatibility

/-- Runs of characters that stand for the characters of another run: the first, the last, and what the
first one stands for. -/
def runs : List (Nat × Nat × Nat) :=
  [(8308, 8313, 52), (8320, 8329, 48), (8473, 8475, 80), (8501, 8504, 1488), (9312, 9320, 49),
   (9398, 9423, 65), (9424, 9449, 97), (12599, 12601, 4355), (12602, 12607, 4528),
   (12609, 12611, 4358), (12613, 12622, 4361), (12623, 12643, 4449), (12664, 12668, 4395),
   (12676, 12678, 4439), (12899, 12901, 4357), (12905, 12909, 4366), (13028, 13033, 12490),
   (13038, 13042, 12510), (13045, 13050, 12520), (13051, 13054, 12527), (64292, 64294, 1499),
   (65089, 65092, 12300), (65281, 65374, 33), (65413, 65418, 12490), (65423, 65427, 12510),
   (65430, 65435, 12520), (65447, 65449, 4355), (65450, 65455, 4528), (65457, 65459, 4358),
   (65461, 65470, 4361), (65474, 65479, 4449), (65482, 65487, 4455), (65490, 65495, 4461),
   (65498, 65500, 4467), (65513, 65516, 8592), (119808, 119833, 65), (119834, 119859, 97),
   (119860, 119885, 65), (119886, 119892, 97), (119894, 119911, 105), (119912, 119937, 65),
   (119938, 119963, 97), (119977, 119980, 78), (119982, 119989, 83), (119990, 119993, 97),
   (119997, 120000, 104), (120005, 120015, 112), (120016, 120041, 65), (120042, 120067, 97),
   (120071, 120074, 68), (120077, 120084, 74), (120086, 120092, 83), (120094, 120119, 97),
   (120123, 120126, 68), (120128, 120132, 73), (120138, 120144, 83), (120146, 120171, 97),
   (120172, 120197, 65), (120198, 120223, 97), (120224, 120249, 65), (120250, 120275, 97),
   (120276, 120301, 65), (120302, 120327, 97), (120328, 120353, 65), (120354, 120379, 97),
   (120380, 120405, 65), (120406, 120431, 97), (120432, 120457, 65), (120458, 120483, 97),
   (120488, 120504, 913), (120506, 120512, 931), (120514, 120538, 945), (120546, 120562, 913),
   (120564, 120570, 931), (120572, 120596, 945), (120604, 120620, 913), (120622, 120628, 931),
   (120630, 120654, 945), (120662, 120678, 913), (120680, 120686, 931), (120688, 120712, 945),
   (120720, 120736, 913), (120738, 120744, 931), (120746, 120770, 945), (120782, 120791, 48),
   (120792, 120801, 48), (120802, 120811, 48), (120812, 120821, 48), (120822, 120831, 48)]

/-- Other characters that stand for a single one, given from a first one on. -/
def letters : List (Nat × List Nat) :=
  [(160, [32]), (170, [97]), (178, [50, 51]), (181, [956]), (185, [49, 111]), (383, [115]),
   (688, [104, 614, 106, 114, 633, 635, 641, 119, 121]), (736, [611, 108, 115, 120, 661]),
   (832, [768, 769]), (835, [787]), (884, [697]), (894, [59]), (903, [183]), (976, [946, 952, 933]),
   (981, [966, 960]), (1008, [954, 961, 962]), (1012, [920, 949]), (3852, [3851]), (8126, [953]),
   (8175, [96]), (8192, [32, 32, 32, 32, 32, 32, 32, 32, 32, 32, 32]), (8209, [8208]), (8228, [46]),
   (8239, [32]), (8287, [32]), (8304, [48, 105]), (8314, [43, 8722, 61, 40, 41, 110]),
   (8330, [43, 8722, 61, 40, 41]), (8450, [67]), (8455, [400]),
   (8458, [103, 72, 72, 72, 104, 295, 73, 73, 76, 108]), (8469, [78]), (8476, [82, 82]),
   (8484, [90]), (8486, [937]), (8488, [90]), (8490, [75]), (8492, [66, 67]), (8495, [101, 69, 70]),
   (8499, [77, 111]), (8505, [105]), (8509, [947, 915, 928, 8721]),
   (8517, [68, 100, 101, 105, 106]), (8544, [73]), (8548, [86]), (8553, [88]),
   (8556, [76, 67, 68, 77, 105]), (8564, [118]), (8569, [120]), (8572, [108, 99, 100, 109]),
   (9001, [12296, 12297]), (9450, [48]), (11935, [27597]), (12019, [40863]),
   (12032, [19968, 20008, 20022, 20031, 20057, 20101, 20108, 20128, 20154, 20799, 20837, 20843,
     20866, 20886, 20907, 20960, 20981, 20992, 21147, 21241, 21269, 21274, 21304, 21313, 21340,
     21353, 21378, 21430, 21448, 21475, 22231, 22303, 22763, 22786, 22794, 22805, 22823, 22899,
     23376, 23424, 23544, 23567, 23586, 23608, 23662, 23665, 24027, 24037, 24049, 24062, 24178,
     24186, 24191, 24308, 24318, 24331, 24339, 24400, 24417, 24435, 24515, 25096, 25142, 25163,
     25903, 25908, 25991, 26007, 26020, 26041, 26080, 26085, 26352, 26376, 26408, 27424, 27490,
     27513, 27571, 27595, 27604, 27611, 27663, 27668, 27700, 28779, 29226, 29238, 29243, 29247,
     29255, 29273, 29275, 29356, 29572, 29577, 29916, 29926, 29976, 29983, 29992, 30000, 30091,
     30098, 30326, 30333, 30382, 30399, 30446, 30683, 30690, 30707, 31034, 31160, 31166, 31348,
     31435, 31481, 31859, 31992, 32566, 32593, 32650, 32701, 32769, 32780, 32786, 32819, 32895,
     32905, 33251, 33258, 33267, 33276, 33292, 33307, 33311, 33390, 33394, 33400, 34381, 34411,
     34880, 34892, 34915, 35198, 35211, 35282, 35328, 35895, 35910, 35925, 35960, 35997, 36196,
     36208, 36275, 36523, 36554, 36763, 36784, 36789, 37009, 37193, 37318, 37324, 37329, 38263,
     38272, 38428, 38582, 38585, 38632, 38737, 38750, 38754, 38761, 38859, 38893, 38899, 38913,
     39080, 39131, 39135, 39318, 39321, 39340, 39592, 39640, 39647, 39717, 39727, 39730, 39740,
     39770, 40165, 40565, 40575, 40613, 40635, 40643, 40653, 40657, 40697, 40701, 40718, 40723,
     40736, 40763, 40778, 40786, 40845, 40860, 40864]),
   (12288, [32]), (12342, [12306]), (12344, [21313, 21316, 21317]),
   (12593, [4352, 4353, 4522, 4354, 4524, 4525]), (12608, [4378]), (12612, [4385]),
   (12644, [4448, 4372, 4373, 4551, 4552, 4556, 4558, 4563, 4567, 4569, 4380, 4573, 4575, 4381,
     4382, 4384, 4386, 4387, 4391, 4393]),
   (12669, [4402, 4406, 4416, 4423, 4428, 4593, 4594]),
   (12679, [4484, 4485, 4488, 4497, 4498, 4500, 4510, 4513]),
   (12690, [19968, 20108, 19977, 22235, 19978, 20013, 19979, 30002, 20057, 19993, 19969, 22825,
     22320, 20154]),
   (12896, [4352, 4354, 4355]), (12902, [4361, 4363, 4364]),
   (12928, [19968, 20108, 19977, 22235, 20116, 20845, 19971, 20843, 20061, 21313, 26376, 28779,
     27700, 26408, 37329, 22303, 26085, 26666, 26377, 31038, 21517, 29305, 36001, 31069, 21172,
     31192, 30007, 22899, 36969, 20778, 21360, 27880, 38917, 20241, 20889, 27491, 19978, 20013,
     19979, 24038, 21491, 21307, 23447, 23398, 30435, 20225, 36039, 21332, 22812]),
   (13008, [12450, 12452, 12454, 12456, 12458, 12459, 12461, 12463, 12465, 12467, 12469, 12471,
     12473, 12475, 12477, 12479, 12481, 12484, 12486, 12488]),
   (13034, [12498, 12501, 12504, 12507]), (13043, [12516, 12518]),
   (63744, [35912, 26356, 36554, 36040, 28369, 20018, 21477, 40860, 40860, 22865, 37329, 21895,
     22856, 25078, 30313, 32645, 34367, 34746, 35064, 37007, 27138, 27931, 28889, 29662, 33853,
     37226, 39409, 20098, 21365, 27396, 29211, 34349, 40478, 23888, 28651, 34253, 35172, 25289,
     33240, 34847, 24266, 26391, 28010, 29436, 37070, 20358, 20919, 21214, 25796, 27347, 29200,
     30439, 32769, 34310, 34396, 36335, 38706, 39791, 40442, 30860, 31103, 32160, 33737, 37636,
     40575, 35542, 22751, 24324, 31840, 32894, 29282, 30922, 36034, 38647, 22744, 23650, 27155,
     28122, 28431, 32047, 32311, 38475, 21202, 32907, 20956, 20940, 31260, 32190, 33777, 38517,
     35712, 25295, 27138, 35582, 20025, 23527, 24594, 29575, 30064, 21271, 30971, 20415, 24489,
     19981, 27852, 25976, 32034, 21443, 22622, 30465, 33865, 35498, 27578, 36784, 27784, 25342,
     33509, 25504, 30053, 20142, 20841, 20937, 26753, 31975, 33391, 35538, 37327, 21237, 21570,
     22899, 24300, 26053, 28670, 31018, 38317, 39530, 40599, 40654, 21147, 26310, 27511, 36706,
     24180, 24976, 25088, 25754, 28451, 29001, 29833, 31178, 32244, 32879, 36646, 34030, 36899,
     37706, 21015, 21155, 21693, 28872, 35010, 35498, 24265, 24565, 25467, 27566, 31806, 29557,
     20196, 22265, 23527, 23994, 24604, 29618, 29801, 32666, 32838, 37428, 38646, 38728, 38936,
     20363, 31150, 37300, 38584, 24801, 20102, 20698, 23534, 23615, 26009, 27138, 29134, 30274,
     34044, 36988, 40845, 26248, 38446, 21129, 26491, 26611, 27969, 28316, 29705, 30041, 30827,
     32016, 39006, 20845, 25134, 38520, 20523, 23833, 28138, 36650, 24459, 24900, 26647, 29575,
     38534, 21033, 21519, 23653, 26131, 26446, 26792, 27877, 29702, 30178, 32633, 35023, 35041,
     37324, 38626, 21311, 28346, 21533, 29136, 29848, 34298, 38563, 40023, 40607, 26519, 28107,
     33256, 31435, 31520, 31890, 29376, 28825, 35672, 20160, 33590, 21050, 20999, 24230, 25299,
     31958, 23429, 27934, 26292, 36667, 34892, 38477, 35211, 24275, 20800, 21952]),
   (64016, [22618]), (64018, [26228]),
   (64021, [20958, 29482, 30410, 31036, 31070, 31077, 31119, 38742, 31934, 32701]),
   (64032, [34322]), (64034, [35576]), (64037, [36920, 37117]),
   (64042, [39151, 39164, 39208, 40372]),
   (64048, [20398, 20711, 20813, 21193, 21220, 21329, 21917, 22022, 22120, 22592, 22696, 23652,
     23662, 24724, 24936, 24974, 25074, 25935, 26082, 26257, 26757, 28023, 28186, 28450, 29038,
     29227, 29730, 30865, 31038, 31049, 31048, 31056, 31062, 31069, 31117, 31118, 31296, 31361,
     31680, 32244, 32265, 32321, 32626, 32773, 33261, 33401, 33401, 33879, 35088, 35222, 35585,
     35641, 36051, 36104, 36790, 36920, 38627, 38911, 38971]),
   (64288, [1506, 1488, 1491, 1492]), (64295, [1512, 1514, 43]),
   (64336, [1649, 1649, 1659, 1659, 1659, 1659, 1662, 1662, 1662, 1662, 1664, 1664, 1664, 1664,
     1658, 1658, 1658, 1658, 1663, 1663, 1663, 1663, 1657, 1657, 1657, 1657, 1700, 1700, 1700, 1700,
     1702, 1702, 1702, 1702, 1668, 1668, 1668, 1668, 1667, 1667, 1667, 1667, 1670, 1670, 1670, 1670,
     1671, 1671, 1671, 1671, 1677, 1677, 1676, 1676, 1678, 1678, 1672, 1672, 1688, 1688, 1681, 1681,
     1705, 1705, 1705, 1705, 1711, 1711, 1711, 1711, 1715, 1715, 1715, 1715, 1713, 1713, 1713, 1713,
     1722, 1722, 1723, 1723, 1723, 1723]),
   (64422, [1729, 1729, 1729, 1729, 1726, 1726, 1726, 1726, 1746, 1746]),
   (64467, [1709, 1709, 1709, 1709, 1735, 1735, 1734, 1734, 1736, 1736]),
   (64478, [1739, 1739, 1733, 1733, 1737, 1737, 1744, 1744, 1744, 1744, 1609, 1609]),
   (64508, [1740, 1740, 1740, 1740]),
   (65073, [8212, 8211, 95, 95, 40, 41, 123, 125, 12308, 12309, 12304, 12305, 12298, 12299, 12296,
     12297]),
   (65101, [95, 95, 95, 44, 12289, 46]),
   (65108, [59, 58, 63, 33, 8212, 40, 41, 123, 125, 12308, 12309, 35, 38, 42, 43, 45, 60, 62, 61]),
   (65128, [92, 36, 37, 64]), (65152, [1569]),
   (65165, [1575, 1575, 1576, 1576, 1576, 1576, 1577, 1577, 1578, 1578, 1578, 1578, 1579, 1579,
     1579, 1579, 1580, 1580, 1580, 1580, 1581, 1581, 1581, 1581, 1582, 1582, 1582, 1582, 1583, 1583,
     1584, 1584, 1585, 1585, 1586, 1586, 1587, 1587, 1587, 1587, 1588, 1588, 1588, 1588, 1589, 1589,
     1589, 1589, 1590, 1590, 1590, 1590, 1591, 1591, 1591, 1591, 1592, 1592, 1592, 1592, 1593, 1593,
     1593, 1593, 1594, 1594, 1594, 1594, 1601, 1601, 1601, 1601, 1602, 1602, 1602, 1602, 1603, 1603,
     1603, 1603, 1604, 1604, 1604, 1604, 1605, 1605, 1605, 1605, 1606, 1606, 1606, 1606, 1607, 1607,
     1607, 1607, 1608, 1608, 1609, 1609, 1610, 1610, 1610, 1610]),
   (65375, [10629, 10630, 12290, 12300, 12301, 12289, 12539, 12530, 12449, 12451, 12453, 12455,
     12457, 12515, 12517, 12519, 12483, 12540, 12450, 12452, 12454, 12456, 12458, 12459, 12461,
     12463, 12465, 12467, 12469, 12471, 12473, 12475, 12477, 12479, 12481, 12484, 12486, 12488]),
   (65419, [12498, 12501, 12504, 12507]), (65428, [12516, 12518]),
   (65436, [12527, 12531, 12441, 12442, 4448, 4352, 4353, 4522, 4354, 4524, 4525]), (65456, [4378]),
   (65460, [4385]), (65504, [162, 163, 172]), (65508, [166, 165, 8361]), (65512, [9474]),
   (65517, [9632, 9675]), (119964, [65]), (119966, [67, 68]), (119970, [71]), (119973, [74, 75]),
   (119995, [102]), (120002, [109, 110]), (120068, [65, 66]), (120120, [65, 66]), (120134, [79]),
   (120505, [920]), (120513, [8711]), (120539, [8706, 949, 952, 954, 966, 961, 960]),
   (120563, [920]), (120571, [8711]), (120597, [8706, 949, 952, 954, 966, 961, 960]),
   (120621, [920]), (120629, [8711]), (120655, [8706, 949, 952, 954, 966, 961, 960]),
   (120679, [920]), (120687, [8711]), (120713, [8706, 949, 952, 954, 966, 961, 960]),
   (120737, [920]), (120745, [8711]), (120771, [8706, 949, 952, 954, 966, 961, 960]),
   (194560, [20029, 20024, 20033, 131362, 20320, 20398, 20411, 20482, 20602, 20633, 20711, 20687,
     13470, 132666, 20813, 20820, 20836, 20855, 132380, 13497, 20839, 20877, 132427, 20887, 20900,
     20172, 20908, 20917, 168415, 20981, 20995, 13535, 21051, 21062, 21106, 21111, 13589, 21191,
     21193, 21220, 21242, 21253, 21254, 21271, 21321, 21329, 21338, 21363, 21373, 21375, 21375,
     21375, 133676, 28784, 21450, 21471, 133987, 21483, 21489, 21510, 21662, 21560, 21576, 21608,
     21666, 21750, 21776, 21843, 21859, 21892, 21892, 21913, 21931, 21939, 21954, 22294, 22022,
     22295, 22097, 22132, 20999, 22766, 22478, 22516, 22541, 22411, 22578, 22577, 22700, 136420,
     22770, 22775, 22790, 22810, 22818, 22882, 136872, 136938, 23020, 23067, 23079, 23000, 23142,
     14062, 136042, 23304, 23358, 23358, 137672, 23491, 23512, 23527, 23539, 138008, 23551, 23558,
     24371, 23586, 14209, 23648, 23662, 23744, 23693, 138724, 23875, 138726, 23918, 23915, 23932,
     24033, 24034, 14383, 24061, 24104, 24125, 24169, 14434, 139651, 14460, 24240, 24243, 24246,
     24266, 172946, 24318, 140081, 140081, 33281, 24354, 24354, 14535, 144056, 156122, 24418, 24427,
     14563, 24474, 24525, 24535, 24569, 24705, 14650, 14620, 24724, 141012, 24775, 24904, 24908,
     24910, 24908, 24954, 24974, 25010, 24996, 25007, 25054, 25074, 25078, 25104, 25115, 25181,
     25265, 25300, 25424, 142092, 25405, 25340, 25448, 25475, 25572, 142321, 25634, 25541, 25513,
     14894, 25705, 25726, 25757, 25719, 14956, 25935, 25964, 143370, 26083, 26360, 26185, 15129,
     26257, 15112, 15076, 20882, 20885, 26368, 26268, 32941, 17369, 26391, 26395, 26401, 26462,
     26451, 144323, 15177, 26618, 26501, 26706, 26757, 144493, 26766, 26655, 26900, 15261, 26946,
     27043, 27114, 27304, 145059, 27355, 15384, 27425, 145575, 27476, 15438, 27506, 27551, 27578,
     27579, 146061, 138507, 146170, 27726, 146620, 27839, 27853, 27751, 27926, 27966, 28023, 27969,
     28009, 28024, 28037, 146718, 27956, 28207, 28270, 15667, 28363, 28359, 147153, 28153, 28526,
     147294, 147342, 28614, 28729, 28702, 28699, 15766, 28746, 28797, 28791, 28845, 132389, 28997,
     148067, 29084, 17323, 29224, 29237, 29264, 149000, 29312, 29333, 149301, 149524, 29562, 29579,
     16044, 29605, 16056, 16056, 29767, 29788, 29809, 29829, 29898, 16155, 29988, 150582, 30014,
     150674, 30064, 139679, 30224, 151457, 151480, 151620, 16380, 16392, 30452, 151795, 151794,
     151833, 151859, 30494, 30495, 30495, 30538, 16441, 30603, 16454, 16534, 152605, 30798, 30860,
     30924, 16611, 153126, 31062, 153242, 153285, 31119, 31211, 16687, 31296, 31306, 31311, 153980,
     154279, 154279, 31406, 16898, 154539, 31686, 31689, 16935, 154752, 31954, 17056, 31976, 31971,
     32000, 155526, 32099, 17153, 32199, 32258, 32325, 17204, 156200, 156231, 17241, 156377, 32634,
     156478, 32661, 32762, 32773, 156890, 156963, 32864, 157096, 32880, 144223, 17365, 32946, 33027,
     17419, 33086, 23221, 157607, 157621, 144275, 144284, 33281, 33284, 36766, 17515, 33425, 33419,
     33437, 21171, 33457, 33459, 33469, 33510, 158524, 33509, 33565, 33635, 33709, 33571, 33725,
     33767, 33879, 33619, 33738, 33740, 33756, 158774, 159083, 158933, 17707, 34033, 34035, 34070,
     160714, 34148, 159532, 17757, 17761, 159665, 159954, 17771, 34384, 34396, 34407, 34409, 34473,
     34440, 34574, 34530, 34681, 34600, 34667, 34694, 19799, 34785, 34817, 17913, 34912, 34915,
     161383, 35031, 35038, 17973, 35066, 13499, 161966, 162150, 18110, 18119, 35488, 35565, 35722,
     35925, 162984, 36011, 36033, 36123, 36215, 163631, 133124, 36299, 36284, 36336, 133342, 36564,
     36664, 165330, 165357, 37012, 37105, 37137, 165678, 37147, 37432, 37591, 37592, 37500, 37881,
     37909, 166906, 38283, 18837, 38327, 167287, 18918, 38595, 23986, 38691, 168261, 168474, 19054,
     19062, 38880, 168970, 19122, 169110, 38923, 38923, 38953, 169398, 39138, 19251, 39209, 39335,
     39362, 39422, 19406, 170800, 39698, 40000, 40189, 19662, 19693, 40295, 172238, 19704, 172293,
     172558, 172689, 40635, 19798, 40697, 40702, 40709, 40719, 40726, 40763, 173568])]

/-- Characters that stand for more than one, given from a first one on. -/
def spellings : List (Nat × List (List Nat)) :=
  [(168, [[32, 776]]), (175, [[32, 772]]), (180, [[32, 769]]), (184, [[32, 807]]),
   (188, [[49, 8260, 52], [49, 8260, 50], [51, 8260, 52]]), (306, [[73, 74], [105, 106]]),
   (319, [[76, 183], [108, 183]]), (329, [[700, 110]]),
   (452, [[68, 90, 780], [68, 122, 780], [100, 122, 780], [76, 74], [76, 106], [108, 106], [78, 74],
     [78, 106], [110, 106]]),
   (497, [[68, 90], [68, 122], [100, 122]]),
   (728, [[32, 774], [32, 775], [32, 778], [32, 808], [32, 771], [32, 779]]), (890, [[32, 837]]),
   (900, [[32, 769]]), (1415, [[1381, 1410]]),
   (1653, [[1575, 1652], [1608, 1652], [1735, 1652], [1610, 1652]]), (3635, [[3661, 3634]]),
   (3763, [[3789, 3762]]), (3804, [[3755, 3737], [3755, 3745]]), (3959, [[4018, 3953, 3968]]),
   (3961, [[4019, 3953, 3968]]), (7834, [[97, 702]]), (8049, [[945, 769]]), (8051, [[949, 769]]),
   (8053, [[951, 769]]), (8055, [[953, 769]]), (8057, [[959, 769]]), (8059, [[965, 769]]),
   (8061, [[969, 769]]), (8123, [[913, 769]]), (8125, [[32, 787]]), (8127, [[32, 787], [32, 834]]),
   (8137, [[917, 769]]), (8139, [[919, 769]]), (8147, [[953, 776, 769]]), (8155, [[921, 769]]),
   (8163, [[965, 776, 769]]), (8171, [[933, 769]]), (8174, [[32, 776, 769]]), (8185, [[927, 769]]),
   (8187, [[937, 769]]), (8189, [[32, 769], [32, 788]]), (8215, [[32, 819]]),
   (8229, [[46, 46], [46, 46, 46]]), (8243, [[8242, 8242], [8242, 8242, 8242]]),
   (8246, [[8245, 8245], [8245, 8245, 8245]]), (8252, [[33, 33]]), (8254, [[32, 773]]),
   (8263, [[63, 63], [63, 33], [33, 63]]), (8279, [[8242, 8242, 8242, 8242]]), (8360, [[82, 115]]),
   (8448, [[97, 47, 99], [97, 47, 115]]), (8451, [[176, 67]]),
   (8453, [[99, 47, 111], [99, 47, 117]]), (8457, [[176, 70]]), (8470, [[78, 111]]),
   (8480, [[83, 77], [84, 69, 76], [84, 77]]), (8491, [[65, 778]]),
   (8531, [[49, 8260, 51], [50, 8260, 51], [49, 8260, 53], [50, 8260, 53], [51, 8260, 53],
     [52, 8260, 53], [49, 8260, 54], [53, 8260, 54], [49, 8260, 56], [51, 8260, 56], [53, 8260, 56],
     [55, 8260, 56], [49, 8260]]),
   (8545, [[73, 73], [73, 73, 73], [73, 86]]),
   (8549, [[86, 73], [86, 73, 73], [86, 73, 73, 73], [73, 88]]), (8554, [[88, 73], [88, 73, 73]]),
   (8561, [[105, 105], [105, 105, 105], [105, 118]]),
   (8565, [[118, 105], [118, 105, 105], [118, 105, 105, 105], [105, 120]]),
   (8570, [[120, 105], [120, 105, 105]]), (8748, [[8747, 8747], [8747, 8747, 8747]]),
   (8751, [[8750, 8750], [8750, 8750, 8750]]),
   (9321, [[49, 48], [49, 49], [49, 50], [49, 51], [49, 52], [49, 53], [49, 54], [49, 55], [49, 56],
     [49, 57], [50, 48], [40, 49, 41], [40, 50, 41], [40, 51, 41], [40, 52, 41], [40, 53, 41],
     [40, 54, 41], [40, 55, 41], [40, 56, 41], [40, 57, 41], [40, 49, 48, 41], [40, 49, 49, 41],
     [40, 49, 50, 41], [40, 49, 51, 41], [40, 49, 52, 41], [40, 49, 53, 41], [40, 49, 54, 41],
     [40, 49, 55, 41], [40, 49, 56, 41], [40, 49, 57, 41], [40, 50, 48, 41], [49, 46], [50, 46],
     [51, 46], [52, 46], [53, 46], [54, 46], [55, 46], [56, 46], [57, 46], [49, 48, 46],
     [49, 49, 46], [49, 50, 46], [49, 51, 46], [49, 52, 46], [49, 53, 46], [49, 54, 46],
     [49, 55, 46], [49, 56, 46], [49, 57, 46], [50, 48, 46], [40, 97, 41], [40, 98, 41],
     [40, 99, 41], [40, 100, 41], [40, 101, 41], [40, 102, 41], [40, 103, 41], [40, 104, 41],
     [40, 105, 41], [40, 106, 41], [40, 107, 41], [40, 108, 41], [40, 109, 41], [40, 110, 41],
     [40, 111, 41], [40, 112, 41], [40, 113, 41], [40, 114, 41], [40, 115, 41], [40, 116, 41],
     [40, 117, 41], [40, 118, 41], [40, 119, 41], [40, 120, 41], [40, 121, 41], [40, 122, 41]]),
   (10764, [[8747, 8747, 8747, 8747]]), (10868, [[58, 58, 61], [61, 61], [61, 61, 61]]),
   (12443, [[32, 12441], [32, 12442]]), (12447, [[12424, 12426]]), (12543, [[12467, 12488]]),
   (12800, [[40, 4352, 41], [40, 4354, 41], [40, 4355, 41], [40, 4357, 41], [40, 4358, 41],
     [40, 4359, 41], [40, 4361, 41], [40, 4363, 41], [40, 4364, 41], [40, 4366, 41], [40, 4367, 41],
     [40, 4368, 41], [40, 4369, 41], [40, 4370, 41], [40, 4352, 4449, 41], [40, 4354, 4449, 41],
     [40, 4355, 4449, 41], [40, 4357, 4449, 41], [40, 4358, 4449, 41], [40, 4359, 4449, 41],
     [40, 4361, 4449, 41], [40, 4363, 4449, 41], [40, 4364, 4449, 41], [40, 4366, 4449, 41],
     [40, 4367, 4449, 41], [40, 4368, 4449, 41], [40, 4369, 4449, 41], [40, 4370, 4449, 41],
     [40, 4364, 4462, 41]]),
   (12832, [[40, 19968, 41], [40, 20108, 41], [40, 19977, 41], [40, 22235, 41], [40, 20116, 41],
     [40, 20845, 41], [40, 19971, 41], [40, 20843, 41], [40, 20061, 41], [40, 21313, 41],
     [40, 26376, 41], [40, 28779, 41], [40, 27700, 41], [40, 26408, 41], [40, 37329, 41],
     [40, 22303, 41], [40, 26085, 41], [40, 26666, 41], [40, 26377, 41], [40, 31038, 41],
     [40, 21517, 41], [40, 29305, 41], [40, 36001, 41], [40, 31069, 41], [40, 21172, 41],
     [40, 20195, 41], [40, 21628, 41], [40, 23398, 41], [40, 30435, 41], [40, 20225, 41],
     [40, 36039, 41], [40, 21332, 41], [40, 31085, 41], [40, 20241, 41], [40, 33258, 41],
     [40, 33267, 41]]),
   (12881, [[50, 49], [50, 50], [50, 51], [50, 52], [50, 53], [50, 54], [50, 55], [50, 56],
     [50, 57], [51, 48], [51, 49], [51, 50], [51, 51], [51, 52], [51, 53]]),
   (12910, [[4352, 4449], [4354, 4449], [4355, 4449], [4357, 4449], [4358, 4449], [4359, 4449],
     [4361, 4449], [4363, 4449], [4364, 4449], [4366, 4449], [4367, 4449], [4368, 4449],
     [4369, 4449], [4370, 4449]]),
   (12977, [[51, 54], [51, 55], [51, 56], [51, 57], [52, 48], [52, 49], [52, 50], [52, 51],
     [52, 52], [52, 53], [52, 54], [52, 55], [52, 56], [52, 57], [53, 48], [49, 26376], [50, 26376],
     [51, 26376], [52, 26376], [53, 26376], [54, 26376], [55, 26376], [56, 26376], [57, 26376],
     [49, 48, 26376], [49, 49, 26376], [49, 50, 26376]]),
   (13056, [[12450, 12495, 12442, 12540, 12488], [12450, 12523, 12501, 12449],
     [12450, 12531, 12504, 12442, 12450], [12450, 12540, 12523],
     [12452, 12491, 12531, 12463, 12441], [12452, 12531, 12481], [12454, 12457, 12531],
     [12456, 12473, 12463, 12540, 12488, 12441], [12456, 12540, 12459, 12540],
     [12458, 12531, 12473], [12458, 12540, 12512], [12459, 12452, 12522],
     [12459, 12521, 12483, 12488], [12459, 12525, 12522, 12540], [12459, 12441, 12525, 12531],
     [12459, 12441, 12531, 12510], [12461, 12441, 12459, 12441], [12461, 12441, 12491, 12540],
     [12461, 12517, 12522, 12540], [12461, 12441, 12523, 12479, 12441, 12540], [12461, 12525],
     [12461, 12525, 12463, 12441, 12521, 12512], [12461, 12525, 12513, 12540, 12488, 12523],
     [12461, 12525, 12527, 12483, 12488], [12463, 12441, 12521, 12512],
     [12463, 12441, 12521, 12512, 12488, 12531], [12463, 12523, 12475, 12441, 12452, 12525],
     [12463, 12525, 12540, 12493], [12465, 12540, 12473], [12467, 12523, 12490],
     [12467, 12540, 12507, 12442], [12469, 12452, 12463, 12523],
     [12469, 12531, 12481, 12540, 12512], [12471, 12522, 12531, 12463, 12441],
     [12475, 12531, 12481], [12475, 12531, 12488], [12479, 12441, 12540, 12473],
     [12486, 12441, 12471], [12488, 12441, 12523], [12488, 12531], [12490, 12494],
     [12494, 12483, 12488], [12495, 12452, 12484], [12495, 12442, 12540, 12475, 12531, 12488],
     [12495, 12442, 12540, 12484], [12495, 12441, 12540, 12524, 12523],
     [12498, 12442, 12450, 12473, 12488, 12523], [12498, 12442, 12463, 12523],
     [12498, 12442, 12467], [12498, 12441, 12523], [12501, 12449, 12521, 12483, 12488, 12441],
     [12501, 12451, 12540, 12488], [12501, 12441, 12483, 12471, 12455, 12523],
     [12501, 12521, 12531], [12504, 12463, 12479, 12540, 12523], [12504, 12442, 12477],
     [12504, 12442, 12491, 12498], [12504, 12523, 12484], [12504, 12442, 12531, 12473],
     [12504, 12442, 12540, 12471, 12441], [12504, 12441, 12540, 12479],
     [12507, 12442, 12452, 12531, 12488], [12507, 12441, 12523, 12488], [12507, 12531],
     [12507, 12442, 12531, 12488, 12441], [12507, 12540, 12523], [12507, 12540, 12531],
     [12510, 12452, 12463, 12525], [12510, 12452, 12523], [12510, 12483, 12495],
     [12510, 12523, 12463], [12510, 12531, 12471, 12519, 12531], [12511, 12463, 12525, 12531],
     [12511, 12522], [12511, 12522, 12495, 12441, 12540, 12523], [12513, 12459, 12441],
     [12513, 12459, 12441, 12488, 12531], [12513, 12540, 12488, 12523],
     [12516, 12540, 12488, 12441], [12516, 12540, 12523], [12518, 12450, 12531],
     [12522, 12483, 12488, 12523], [12522, 12521], [12523, 12498, 12442, 12540],
     [12523, 12540, 12501, 12441, 12523], [12524, 12512],
     [12524, 12531, 12488, 12465, 12441, 12531], [12527, 12483, 12488], [48, 28857], [49, 28857],
     [50, 28857], [51, 28857], [52, 28857], [53, 28857], [54, 28857], [55, 28857], [56, 28857],
     [57, 28857], [49, 48, 28857], [49, 49, 28857], [49, 50, 28857], [49, 51, 28857],
     [49, 52, 28857], [49, 53, 28857], [49, 54, 28857], [49, 55, 28857], [49, 56, 28857],
     [49, 57, 28857], [50, 48, 28857], [50, 49, 28857], [50, 50, 28857], [50, 51, 28857],
     [50, 52, 28857], [104, 80, 97], [100, 97], [65, 85], [98, 97, 114], [111, 86], [112, 99]]),
   (13179, [[24179, 25104], [26157, 21644], [22823, 27491], [26126, 27835],
     [26666, 24335, 20250, 31038], [112, 65], [110, 65], [956, 65], [109, 65], [107, 65], [75, 66],
     [77, 66], [71, 66], [99, 97, 108], [107, 99, 97, 108], [112, 70], [110, 70], [956, 70],
     [956, 103], [109, 103], [107, 103], [72, 122], [107, 72, 122], [77, 72, 122], [71, 72, 122],
     [84, 72, 122], [956, 108], [109, 108], [100, 108], [107, 108], [102, 109], [110, 109],
     [956, 109], [109, 109], [99, 109], [107, 109], [109, 109, 50], [99, 109, 50], [109, 50],
     [107, 109, 50], [109, 109, 51], [99, 109, 51], [109, 51], [107, 109, 51], [109, 8725, 115],
     [109, 8725, 115, 50], [80, 97], [107, 80, 97], [77, 80, 97], [71, 80, 97], [114, 97, 100],
     [114, 97, 100, 8725, 115], [114, 97, 100, 8725, 115, 50], [112, 115], [110, 115], [956, 115],
     [109, 115], [112, 86], [110, 86], [956, 86], [109, 86], [107, 86], [77, 86], [112, 87],
     [110, 87], [956, 87], [109, 87], [107, 87], [77, 87], [107, 937], [77, 937], [97, 46, 109, 46],
     [66, 113], [99, 99], [99, 100], [67, 8725, 107, 103], [67, 111, 46], [100, 66], [71, 121],
     [104, 97], [72, 80], [105, 110], [75, 75], [75, 77], [107, 116], [108, 109], [108, 110],
     [108, 111, 103], [108, 120], [109, 98], [109, 105, 108], [109, 111, 108], [80, 72],
     [112, 46, 109, 46], [80, 80, 77], [80, 82], [115, 114], [83, 118], [87, 98]]),
   (13280, [[49, 26085], [50, 26085], [51, 26085], [52, 26085], [53, 26085], [54, 26085],
     [55, 26085], [56, 26085], [57, 26085], [49, 48, 26085], [49, 49, 26085], [49, 50, 26085],
     [49, 51, 26085], [49, 52, 26085], [49, 53, 26085], [49, 54, 26085], [49, 55, 26085],
     [49, 56, 26085], [49, 57, 26085], [50, 48, 26085], [50, 49, 26085], [50, 50, 26085],
     [50, 51, 26085], [50, 52, 26085], [50, 53, 26085], [50, 54, 26085], [50, 55, 26085],
     [50, 56, 26085], [50, 57, 26085], [51, 48, 26085], [51, 49, 26085]]),
   (64256, [[102, 102], [102, 105], [102, 108], [102, 102, 105], [102, 102, 108], [115, 116],
     [115, 116]]),
   (64275, [[1396, 1398], [1396, 1381], [1396, 1387], [1406, 1398], [1396, 1389]]),
   (64335, [[1488, 1500]]), (64420, [[1749, 1620], [1749, 1620]]),
   (64432, [[1746, 1620], [1746, 1620]]), (64477, [[1735, 1652]]),
   (64490, [[1610, 1620, 1575], [1610, 1620, 1575], [1610, 1620, 1749], [1610, 1620, 1749],
     [1610, 1620, 1608], [1610, 1620, 1608], [1610, 1620, 1735], [1610, 1620, 1735],
     [1610, 1620, 1734], [1610, 1620, 1734], [1610, 1620, 1736], [1610, 1620, 1736],
     [1610, 1620, 1744], [1610, 1620, 1744], [1610, 1620, 1744], [1610, 1620, 1609],
     [1610, 1620, 1609], [1610, 1620, 1609]]),
   (64512, [[1610, 1620, 1580], [1610, 1620, 1581], [1610, 1620, 1605], [1610, 1620, 1609],
     [1610, 1620, 1610], [1576, 1580], [1576, 1581], [1576, 1582], [1576, 1605], [1576, 1609],
     [1576, 1610], [1578, 1580], [1578, 1581], [1578, 1582], [1578, 1605], [1578, 1609],
     [1578, 1610], [1579, 1580], [1579, 1605], [1579, 1609], [1579, 1610], [1580, 1581],
     [1580, 1605], [1581, 1580], [1581, 1605], [1582, 1580], [1582, 1581], [1582, 1605],
     [1587, 1580], [1587, 1581], [1587, 1582], [1587, 1605], [1589, 1581], [1589, 1605],
     [1590, 1580], [1590, 1581], [1590, 1582], [1590, 1605], [1591, 1581], [1591, 1605],
     [1592, 1605], [1593, 1580], [1593, 1605], [1594, 1580], [1594, 1605], [1601, 1580],
     [1601, 1581], [1601, 1582], [1601, 1605], [1601, 1609], [1601, 1610], [1602, 1581],
     [1602, 1605], [1602, 1609], [1602, 1610], [1603, 1575], [1603, 1580], [1603, 1581],
     [1603, 1582], [1603, 1604], [1603, 1605], [1603, 1609], [1603, 1610], [1604, 1580],
     [1604, 1581], [1604, 1582], [1604, 1605], [1604, 1609], [1604, 1610], [1605, 1580],
     [1605, 1581], [1605, 1582], [1605, 1605], [1605, 1609], [1605, 1610], [1606, 1580],
     [1606, 1581], [1606, 1582], [1606, 1605], [1606, 1609], [1606, 1610], [1607, 1580],
     [1607, 1605], [1607, 1609], [1607, 1610], [1610, 1580], [1610, 1581], [1610, 1582],
     [1610, 1605], [1610, 1609], [1610, 1610], [1584, 1648], [1585, 1648], [1609, 1648],
     [32, 1612, 1617], [32, 1613, 1617], [32, 1614, 1617], [32, 1615, 1617], [32, 1616, 1617],
     [32, 1617, 1648], [1610, 1620, 1585], [1610, 1620, 1586], [1610, 1620, 1605],
     [1610, 1620, 1606], [1610, 1620, 1609], [1610, 1620, 1610], [1576, 1585], [1576, 1586],
     [1576, 1605], [1576, 1606], [1576, 1609], [1576, 1610], [1578, 1585], [1578, 1586],
     [1578, 1605], [1578, 1606], [1578, 1609], [1578, 1610], [1579, 1585], [1579, 1586],
     [1579, 1605], [1579, 1606], [1579, 1609], [1579, 1610], [1601, 1609], [1601, 1610],
     [1602, 1609], [1602, 1610], [1603, 1575], [1603, 1604], [1603, 1605], [1603, 1609],
     [1603, 1610], [1604, 1605], [1604, 1609], [1604, 1610], [1605, 1575], [1605, 1605],
     [1606, 1585], [1606, 1586], [1606, 1605], [1606, 1606], [1606, 1609], [1606, 1610],
     [1609, 1648], [1610, 1585], [1610, 1586], [1610, 1605], [1610, 1606], [1610, 1609],
     [1610, 1610], [1610, 1620, 1580], [1610, 1620, 1581], [1610, 1620, 1582], [1610, 1620, 1605],
     [1610, 1620, 1607], [1576, 1580], [1576, 1581], [1576, 1582], [1576, 1605], [1576, 1607],
     [1578, 1580], [1578, 1581], [1578, 1582], [1578, 1605], [1578, 1607], [1579, 1605],
     [1580, 1581], [1580, 1605], [1581, 1580], [1581, 1605], [1582, 1580], [1582, 1605],
     [1587, 1580], [1587, 1581], [1587, 1582], [1587, 1605], [1589, 1581], [1589, 1582],
     [1589, 1605], [1590, 1580], [1590, 1581], [1590, 1582], [1590, 1605], [1591, 1581],
     [1592, 1605], [1593, 1580], [1593, 1605], [1594, 1580], [1594, 1605], [1601, 1580],
     [1601, 1581], [1601, 1582], [1601, 1605], [1602, 1581], [1602, 1605], [1603, 1580],
     [1603, 1581], [1603, 1582], [1603, 1604], [1603, 1605], [1604, 1580], [1604, 1581],
     [1604, 1582], [1604, 1605], [1604, 1607], [1605, 1580], [1605, 1581], [1605, 1582],
     [1605, 1605], [1606, 1580], [1606, 1581], [1606, 1582], [1606, 1605], [1606, 1607],
     [1607, 1580], [1607, 1605], [1607, 1648], [1610, 1580], [1610, 1581], [1610, 1582],
     [1610, 1605], [1610, 1607], [1610, 1620, 1605], [1610, 1620, 1607], [1576, 1605], [1576, 1607],
     [1578, 1605], [1578, 1607], [1579, 1605], [1579, 1607], [1587, 1605], [1587, 1607],
     [1588, 1605], [1588, 1607], [1603, 1604], [1603, 1605], [1604, 1605], [1606, 1605],
     [1606, 1607], [1610, 1605], [1610, 1607], [1600, 1614, 1617], [1600, 1615, 1617],
     [1600, 1616, 1617], [1591, 1609], [1591, 1610], [1593, 1609], [1593, 1610], [1594, 1609],
     [1594, 1610], [1587, 1609], [1587, 1610], [1588, 1609], [1588, 1610], [1581, 1609],
     [1581, 1610], [1580, 1609], [1580, 1610], [1582, 1609], [1582, 1610], [1589, 1609],
     [1589, 1610], [1590, 1609], [1590, 1610], [1588, 1580], [1588, 1581], [1588, 1582],
     [1588, 1605], [1588, 1585], [1587, 1585], [1589, 1585], [1590, 1585], [1591, 1609],
     [1591, 1610], [1593, 1609], [1593, 1610], [1594, 1609], [1594, 1610], [1587, 1609],
     [1587, 1610], [1588, 1609], [1588, 1610], [1581, 1609], [1581, 1610], [1580, 1609],
     [1580, 1610], [1582, 1609], [1582, 1610], [1589, 1609], [1589, 1610], [1590, 1609],
     [1590, 1610], [1588, 1580], [1588, 1581], [1588, 1582], [1588, 1605], [1588, 1585],
     [1587, 1585], [1589, 1585], [1590, 1585], [1588, 1580], [1588, 1581], [1588, 1582],
     [1588, 1605], [1587, 1607], [1588, 1607], [1591, 1605], [1587, 1580], [1587, 1581],
     [1587, 1582], [1588, 1580], [1588, 1581], [1588, 1582], [1591, 1605], [1592, 1605],
     [1575, 1611], [1575, 1611]]),
   (64848, [[1578, 1580, 1605], [1578, 1581, 1580], [1578, 1581, 1580], [1578, 1581, 1605],
     [1578, 1582, 1605], [1578, 1605, 1580], [1578, 1605, 1581], [1578, 1605, 1582],
     [1580, 1605, 1581], [1580, 1605, 1581], [1581, 1605, 1610], [1581, 1605, 1609],
     [1587, 1581, 1580], [1587, 1580, 1581], [1587, 1580, 1609], [1587, 1605, 1581],
     [1587, 1605, 1581], [1587, 1605, 1580], [1587, 1605, 1605], [1587, 1605, 1605],
     [1589, 1581, 1581], [1589, 1581, 1581], [1589, 1605, 1605], [1588, 1581, 1605],
     [1588, 1581, 1605], [1588, 1580, 1610], [1588, 1605, 1582], [1588, 1605, 1582],
     [1588, 1605, 1605], [1588, 1605, 1605], [1590, 1581, 1609], [1590, 1582, 1605],
     [1590, 1582, 1605], [1591, 1605, 1581], [1591, 1605, 1581], [1591, 1605, 1605],
     [1591, 1605, 1610], [1593, 1580, 1605], [1593, 1605, 1605], [1593, 1605, 1605],
     [1593, 1605, 1609], [1594, 1605, 1605], [1594, 1605, 1610], [1594, 1605, 1609],
     [1601, 1582, 1605], [1601, 1582, 1605], [1602, 1605, 1581], [1602, 1605, 1605],
     [1604, 1581, 1605], [1604, 1581, 1610], [1604, 1581, 1609], [1604, 1580, 1580],
     [1604, 1580, 1580], [1604, 1582, 1605], [1604, 1582, 1605], [1604, 1605, 1581],
     [1604, 1605, 1581], [1605, 1581, 1580], [1605, 1581, 1605], [1605, 1581, 1610],
     [1605, 1580, 1581], [1605, 1580, 1605], [1605, 1582, 1580], [1605, 1582, 1605]]),
   (64914, [[1605, 1580, 1582], [1607, 1605, 1580], [1607, 1605, 1605], [1606, 1581, 1605],
     [1606, 1581, 1609], [1606, 1580, 1605], [1606, 1580, 1605], [1606, 1580, 1609],
     [1606, 1605, 1610], [1606, 1605, 1609], [1610, 1605, 1605], [1610, 1605, 1605],
     [1576, 1582, 1610], [1578, 1580, 1610], [1578, 1580, 1609], [1578, 1582, 1610],
     [1578, 1582, 1609], [1578, 1605, 1610], [1578, 1605, 1609], [1580, 1605, 1610],
     [1580, 1581, 1609], [1580, 1605, 1609], [1587, 1582, 1609], [1589, 1581, 1610],
     [1588, 1581, 1610], [1590, 1581, 1610], [1604, 1580, 1610], [1604, 1605, 1610],
     [1610, 1581, 1610], [1610, 1580, 1610], [1610, 1605, 1610], [1605, 1605, 1610],
     [1602, 1605, 1610], [1606, 1581, 1610], [1602, 1605, 1581], [1604, 1581, 1605],
     [1593, 1605, 1610], [1603, 1605, 1610], [1606, 1580, 1581], [1605, 1582, 1610],
     [1604, 1580, 1605], [1603, 1605, 1605], [1604, 1580, 1605], [1606, 1580, 1581],
     [1580, 1581, 1610], [1581, 1580, 1610], [1605, 1580, 1610], [1601, 1605, 1610],
     [1576, 1581, 1610], [1603, 1605, 1605], [1593, 1580, 1605], [1589, 1605, 1605],
     [1587, 1582, 1610], [1606, 1580, 1610]]),
   (65008, [[1589, 1604, 1746], [1602, 1604, 1746], [1575, 1604, 1604, 1607],
     [1575, 1603, 1576, 1585], [1605, 1581, 1605, 1583], [1589, 1604, 1593, 1605],
     [1585, 1587, 1608, 1604], [1593, 1604, 1610, 1607], [1608, 1587, 1604, 1605],
     [1589, 1604, 1609],
     [1589, 1604, 1609, 32, 1575, 1604, 1604, 1607, 32, 1593, 1604, 1610, 1607, 32, 1608, 1587, 1604, 1605],
     [1580, 1604, 32, 1580, 1604, 1575, 1604, 1607], [1585, 1740, 1575, 1604]]),
   (65072, [[46, 46]]), (65097, [[32, 773], [32, 773], [32, 773], [32, 773]]),
   (65136, [[32, 1611], [1600, 1611], [32, 1612]]), (65140, [[32, 1613]]),
   (65142, [[32, 1614], [1600, 1614], [32, 1615], [1600, 1615], [32, 1616], [1600, 1616],
     [32, 1617], [1600, 1617], [32, 1618], [1600, 1618]]),
   (65153, [[1575, 1619], [1575, 1619], [1575, 1620], [1575, 1620], [1608, 1620], [1608, 1620],
     [1575, 1621], [1575, 1621], [1610, 1620], [1610, 1620], [1610, 1620], [1610, 1620]]),
   (65269, [[1604, 1575, 1619], [1604, 1575, 1619], [1604, 1575, 1620], [1604, 1575, 1620],
     [1604, 1575, 1621], [1604, 1575, 1621], [1604, 1575], [1604, 1575]]),
   (65507, [[32, 772]])]

/-- What is given for a code by tables from a first one on. -/
def listed? {α : Type} (table : List (Nat × List α)) (n : Nat) : Option α :=
  table.findSome? fun (first, images) => if first ≤ n then images[n - first]? else none

/-- What a code stands for, if it only stands for others. -/
def image? (n : Nat) : Option (List Nat) :=
  match runs.find? fun (first, last, _) => first ≤ n && n ≤ last with
  | some (first, _, image) => some [image + (n - first)]
  | none => (listed? letters n).map (fun image => [image]) <|> listed? spellings n

end FacetSearch.Compatibility
