/-!
# Chinese by readings in Bopomofo

The rules of one of the orders of Chinese.

* `zhuyinRules` : the rules, without those of tone marks.
-/

namespace StyleHost

namespace Collation

/-- Ideographs by their readings in Bopomofo. -/
def zhuyinRules : String :=
"[reorder Hani Bopo]&[last primary ignorable]<<ˉ<<ˊ<<ˇ<<ˋ<<˙<<˪<<˫&[last regular]<*八仈巴叭扒朳玐夿岜芭峇柭疤哵巼捌
笆粑羓蚆釛釟㭭豝鲃䰾叐犮抜坺妭拔炦癹胈茇菝詙跋軷颰墢魃鼥把钯鈀靶坝弝爸垻罢耙跁鲅鲌罷䎬鮊覇矲霸壩灞欛吧紦魞癶帗拨波癷玻剝剥哱盋砵钵饽紴缽袚袰菠碆鉢僠嶓撥播餑鮁蹳驋鱍仢伯犻肑驳帛狛瓝侼勃胉苩亳挬浡瓟
秡郣钹铂㪍㶿㹀㼎脖舶袯博渤袹鹁愽搏猼葧鈸鉑馎僰㬍煿牔箔膊艊䭯馛駁蔔踣鋍镈䙏𩓐馞駮豰𨍭嚗懪㩧㬧簙襏鎛餺鵓犦礡髆髉欂礴襮鑮跛箥簸孹檗糪譒蘗⺊卜啵萡挀掰擘白百佰柏栢捭瓸粨絔摆擺襬庍拝败拜敗猈稗蛽粺㔥贁韛
竡薭卑杯陂盃桮悲揹椑碑禆鹎錃藣鵯北㤳鉳贝孛狈貝备昁牬邶背苝钡俻倍㛝悖狽郥偝偹㫲梖珼被備惫焙琲軰辈鄁僃愂㻗碚㸢犕蓓誖鞁褙輩鋇骳憊糒鞴鐾呗唄禙勹包孢枹胞苞笣煲龅褒蕔闁襃齙窇嫑雹䈏薄𦢊㿺宝怉饱保鸨宲珤堡
堢媬寚葆飽駂鳵緥褓鴇賲䭋寳寶𨰦靌䴐𨰻勽报抱豹趵铇蚫袌報菢鉋鲍靤暴骲髱虣鮑儤曓爆忁鑤鸔佨藵扳攽班般颁斑搬斒頒瘢鳻䈲螌褩癍辬坂岅阪昄板版瓪钣粄舨鈑蝂魬闆办半伴扮坢姅怑拌绊柈秚湴絆鉡靽辦瓣螁奔泍贲栟犇锛
錛本苯奙畚翉楍坋坌倴捹桳渀笨𦯀逩撪獖輽邦垹帮捠浜梆邫幇幚縍幫鞤绑綁榜牓膀髈㭋玤蚌傍棒棓谤塝搒稖蒡蜯磅镑艕謗鎊伻祊奟崩絣閍傰嵭痭嘣綳甭埄埲绷琣琫菶繃鞛泵迸逬塴镚甏𩗴䭰蹦鏰蠯揼屄偪毴楅逼豍螕鲾鎞鵖鰏荸
鼻匕比㠲夶朼佊吡妣沘疕彼柀秕俾笔粃舭啚㪏筆箄聛鄙貏币必毕闭佖㘩坒庇诐㘠妼怭怶㧙枈畀邲哔柲毖珌疪苾毙狴笓粊荜铋陛婢庳敝梐畢袐閇閉堛弻弼愊愎湢皕筚萆詖貱賁赑滗煏痹痺睤腷蜌跸鉍閟飶嗶幣弊彃滭碧箅箆綼蓖裨
馝潷熚獘獙㻫蓽蔽䠋鄪駜髲壁嬖廦㵥篦罼觱鮅斃濞篳縪臂薜避饆奰璧蹕鄨髀繴襞鏎䕗襣躃躄鞸韠贔鐴驆魓鷝鷩鼊匂萞幤嬶襅憋蟞鳖鱉鼈虌龞別别咇䏟莂蛂徶襒蹩瘪癟㿜彆䌘灬杓标飑骉髟淲彪猋脿颩墂幖摽滮颮骠標熛膘蔈瘭磦
镖飙飚儦颷瀌謤爂臕藨贆鏢穮镳飆飇飈驃鑣䮽驫表婊裱諘錶檦褾俵鳔鰾飊边辺砭笾揙猵编煸牑甂箯編蝙邉鍽鳊鞭邊鯾鯿籩贬扁窆匾惼貶萹碥稨糄褊鴘藊卞弁匥忭抃汳汴釆变玣苄便変昪㭓覍徧缏遍閞辡緶艑辧辨辩辫辮辯變峅炞
汃邠玢砏宾彬梹傧斌椕滨㻞缤槟瑸豩賓賔镔儐濒濱虨豳檳璸瀕霦繽鑌顮摈殡膑髩擯鬂殯臏髌鬓髕鬢氞濵冫仌仒氷冰兵掤丙怲抦秉邴陃昞昺柄炳苪饼眪窉㨀蛃摒禀稟鈵鉼餅餠鞞并㓈並併幷庰倂栤病竝偋傡寎棅誁鮩靐垪鞆鋲峬庯
晡逋鈽誧鳪轐醭卟𤣰补哺捕喸補鵏不布佈吥步咘㘵怖抪歨歩㳍柨钚勏埔埗悑捗钸埠荹部瓿踄蔀郶餔餢篰簿妑𥐙𤆵皅趴舥啪葩杷爬掱琶筢潖帊帕怕袙钋坡岥泊泼颇溌鉕頗潑鏺婆嘙蔢鄱皤謈櫇叵尀钷笸駊岶炇敀昢洦珀迫烞破砶釙
粕蒪魄醗䪖桲拍俳徘排猅棑牌輫簰簲犤廹哌派㭛湃蒎鎃呸㚰怌肧柸胚衃醅阫培陪毰赔锫裴裵賠駍俖伂沛佩帔姵斾旆浿珮配笩䊃辔馷嶏霈轡蓜抛拋脬刨咆垉庖狍炰爮匏袍軳鞄麃麅跑奅泡炮疱皰砲麭礟礮萢褜剖娝抔抙捊掊裒箁錇
咅哣婄犃廍㐴眅砙畨潘攀爿洀盘跘媻幋搫槃蒰盤磐縏磻蹒𣁦瀊蟠蹣鎜鞶冸判沜拚泮炍叛牉盼畔聁袢詊溿頖鋬襻鑻鵥喷噴歕瓫盆湓葐呠翸喯乓沗胮雱滂膖䨦霶厐庞厖旁逄舽嫎徬𤧭螃鳑龎龐嗙耪覫炐肨胖匉㛁怦抨恲㧸砰梈烹硑軯
閛漰嘭澎磞芃朋竼倗挷堋弸莑彭棚椖硼稝鹏塳憉槰樥熢蓬𨂃輣篣膨錋韸篷髼蟚蟛鬅䴶韼鵬騯纄鬔鑝捧淎皏剻掽椪碰踫丕伓伾批纰坯披抷炋狉邳砒𠜱悂秛秠紕铍旇翍耚豾鈈鈚鈹鉟銔劈磇駓髬噼錍魾鮍憵礔礕霹皮㓟阰岯枇毞狓肶
芘毗毘疲蚍啤埤崥𦨭蚽蚾豼𨈚郫陴焷琵脾腗鲏罴膍蜱魮壀篺螷貔鵧羆朇鼙匹庀疋仳圮苉脴痞銢諀鴄擗噽癖䰦嚭屁淠渒揊釽媲嫓睥辟潎稫僻澼嚊甓䑄疈譬闢鷿鸊榌氕撇𢳂撆暼瞥丿苤鐅嫳剽慓缥飘旚翲螵犥飃飄魒嫖瓢竂薸闝殍彯
瞟篻縹醥皫顠票僄勡嘌徱漂㬓囨偏媥犏篇翩鍂鶣骈胼腁楄楩賆跰諚蹁駢骿騈覑谝貵諞片骗騗騙魸姘拼㡦礗穦馪驞玭贫娦貧琕嫔频頻嬪獱薲嚬矉蠙颦顰品榀牝汖聘乒甹俜娉涄砯聠艵竮頩𩩍平评凭呯坪泙屏帡枰洴玶胓苹郱㺸㻂荓
屛帲淜瓶蚲幈焩缾萍蛢評甁蓱軿鲆凴䈂慿箳輧憑鮃檘簈蘋岼塀仆攴攵扑陠噗撲潽擈鯆㺪匍脯莆菐菩葡僕蒱蒲酺墣獛璞濮瞨穙䈻镤𥣈纀襥鏷圤朴圃浦烳普溥谱諩樸氆檏镨譜蹼鐠铺舖舗鋪㬥瀑曝巬巭贌呣妈孖媽嬤嬷麻痲犘蔴蟆蟇
马㐷玛码蚂馬溤瑪碼螞鎷鰢鷌犸杩祃閁骂唛傌獁嘜㨸榪睰禡罵㜫駡礣鬕亇吗嗎嘛嫲遤摸庅谟馍嫫麽摩摹模膜橅磨糢嚤擵謨嚩嚰饃蘑劘髍魔䃺饝抹懡䩋末劰圽妺帓歾歿殁沫𤣻帞昩枺茉陌唜皌眜眿砞秣眽粖絈莈莫湐蛨貃貊嗼塻寞
漠獏蓦銆靺嫼暯㱳黙瞐镆魩墨瘼瞙默瀎蟔謩貘爅藦鏌礳纆驀耱怽尛魹麿么麼嚒嚜濹癦埋㜥薶霾买荬買嘪蕒鷶劢佅売迈麦卖脉脈麥衇勱賣邁霡霢𪄳呅坆沒没枚玫栂眉苺娒脄梅珻脢莓堳媒嵋湄湈猸睂郿楣楳煤瑂葿塺槑禖酶镅鹛鋂
霉穈徾鎇矀攗鶥蘪黴毎每凂美挴浼媄嵄渼媺腜镁嬍燘鎂黣妹抺沬旀昧㭑眛祙袂媚寐痗跊煝鬽睸韎篃蝞魅躾猫貓毛矛枆牦茅茆旄罞兞軞酕堥渵𨥨锚髦嫹氂犛蝥髳蟊錨鶜冇卯夘乮戼㚹峁泖昴铆笷蓩冃皃冐芼冒柕眊茂贸耄袤覒媢帽
貿愗暓楙毷瑁萺瞀貌鄚蝐鄮懋哞牟侔劺㭌恈洠眸谋蛑缪踎鉾謀瞴繆鍪鴾麰某𦳑嫚颟姏悗㒼蛮僈谩慲馒樠瞒瞞鞔𥲑謾饅鳗顢鬗鬘鰻蠻屘満睌满滿螨蟎襔鏋矕曼㬅墁幔慢摱漫獌缦鄤槾熳蔄蔓㡢澷镘縵鏝𩅍䕕𤅎蘰门扪玧钔門閅捫菛
璊鍆亹虋闷焖悶暪燜懑懣们們椚牤吂忙汒邙尨杗杧芒氓盲笀哤娏庬㤶恾浝狵茫牻㻊釯铓痝硭蛖䈍𣙷鋩駹𩷶莽硥茻莾壾漭㬒蟒蠎甿虻冡莔萌萠䀄盟蒙蝱儚橗甍瞢蕄鄳幪懞曚濛鄸朦檬氋䑃䑅鯍矇礞鹲艨蘉矒霿靀饛顭鼆鸏勐猛瓾䁅
锰艋蜢錳懜獴懵鯭蠓孟𠵼梦溕夢夣䓝霥㜴掹擝咪眯瞇冞弥罙祢迷猕谜詸蒾彌擟糜縻謎醚麊麋禰靡㜷瀰獼麛戂攠瓕镾爢䕷蘼醾醿鸍釄米芈侎沵羋弭洣敉眫脒渳葞銤蔝濔孊灖冖糸汨沕宓泌觅峚宻祕秘密淧淿覓覔幂谧塓幎㨠覛嘧榓
滵漞熐蜜樒蔤鼏冪幦濗謐櫁簚藌羃乜吀咩哶孭灭烕覕搣滅蔑鴓篾薎幭懱櫗蠛衊鑖鱴喵苗㑤媌描鹋瞄緢鶓鱙杪眇秒淼渺缈篎緲藐邈妙庙玅竗庿廟谬謬宀芇眠婂绵媔棉綿緜臱蝒嬵檰櫋矈矊矏丏汅免沔黾勉眄娩㝃偭冕勔渑喕愐湎缅
絻腼葂黽㻰緬麫澠鮸靣面糆麪麺麵民姄岷忞怋旻旼珉盿砇苠罠崏捪琘缗敯瑉痻碈鈱緍䪸緡錉鴖鍲皿冺刡闵抿泯勄敃闽悯敏笢惽湣閔愍㬆暋閩僶慜憫潣簢𧁋鳘蠠鰵𪄴垊笽名明鸣洺眀冥茗朙眳铭嫇溟猽鄍暝榠蓂銘鳴瞑螟覭䫤佲姳
凕慏酩命椧詺掵毪墲氁母亩牡坶姆拇峔牳畆畒胟畝畞砪畮𧿹𠺖鉧踇木仫朰目沐狇炑牧苜毣蚞钼莯雮募㜈楘睦鉬墓幕幙慔慕暮艒霂穆縸鞪凩发沷発傠發彂酦醱乏伐姂垡浌疺罚阀栰砝茷筏瞂罰閥罸橃藅佱法灋珐琺髪髮蕟𧬋鍅仏坲
梻飞妃非飛啡婓渄绯𩇫扉猆菲靟緋蜚裶霏鲱餥馡騑騛飝肥淝腓䈈蜰蟦朏匪诽奜悱斐棐榧翡誹篚蕜𩄼吠废杮沸狒肺芾昲胇费俷剕厞疿屝陫廃㹃萉費痱镄廢曊䤵癈鼣濷䰁櫠鯡鐨靅婔暃紑裦缶否妚缹缻殕雬鴀帆訉番勫噃嬏幡憣旙蕃
旛繙翻藩轓颿籓飜鱕凡凢凣㠶忛杋矾籵钒柉烦舧笲棥渢煩緐墦樊橎燔璠膰繁薠羳襎蹯瀪瀿礬鐇鐢蘩蠜鷭反払返䡊釩𠆩氾犯奿汎饭泛贩畈范䀀軓婏梵㴀盕笵販軬飯飰滼嬎範舤分吩帉纷昐氛芬哛兺紛翂衯兝訜酚棻鈖雰㬟朆燓餴饙
坟妢岎汾朌枌炃肦羒蚠蚡梤棼焚馚蒶墳幩濆魵橨燌蕡豮隫鼢羵鼖豶轒鐼馩黂粉黺份弅奋忿秎偾愤粪僨憤奮膹糞鲼瀵鱝竕躮匚方坊汸邡枋牥芳钫蚄淓鈁鴋妨防房肪埅鲂魴鰟仿访彷纺昉昘瓬眆倣旊紡舫訪髣鶭放趽堏錺丰风仹凨凬
妦沣沨凮枫封疯盽砜風㛔峯峰䒠偑桻烽崶猦锋楓犎葑蜂瘋碸僼篈鋒鄷檒闏豐鏠㒥寷㠦灃酆霻蘴蠭靊飌麷冯夆捀浲逢堸馮綘艂㦀摓漨㵯讽唪覂諷凤奉甮俸湗焨煈缝赗鳯鳳鴌賵縫琒溄鎽蘕覅夫伕呋妋邞姇玞肤怤柎砆垺娐尃荂衭旉
㭪紨荴趺麸痡稃跗鈇筟綒孵豧鄜敷膚鳺麩糐麬麱懯乀巿弗伏凫甶佛冹刜孚扶咈岪彿怫拂服枎泭绂绋芙芣俘垘㪄柫氟洑炥玸畉畐罘苻茀韨哹栿浮砩祓茯蚨郛匐桴涪烰琈符笰紱紼翇艴莩虙幅棴絥罦菔袱粰綍艀葍蜉辐鉘鉜颫鳧榑福
稪箙韍幞澓蝠髴諨踾輻鮄鴔癁𩜲黻襆鵩鶝呒抚甫乶府弣拊斧俌俛胕鳬俯郙釜釡捬辅焤盙腑滏蜅䋨腐輔嘸撨撫頫鬴簠黼⻏⻖阝父讣付妇负咐坿㤔竎阜附驸复峊訃負赴㤱祔蚥陚偩冨副婦蚹袝傅媍富復㷆秿蛗詂赋圑椱缚腹萯鲋赙䭻
㬼緮蝜蝮複褔賦駙嬔縛蕧輹鮒賻鍑鍢鳆覆馥䘀鰒𠓗酜椨覄禣鮲咑哒耷荅笚嗒搭𡐿撘噠𦖿褡鎝达呾妲怛沓迖炟羍畗畣笪荙剳匒答詚逹達阘靼鞑薘鎉蟽躂鐽韃龖龘打大汏眔垯墶瘩燵繨嘚㤫恴得淂惪棏锝徳德鍀地的脦呆呔獃懛歹傣
逮㐲代轪𠰺垈岱帒甙绐骀带待怠柋殆玳贷迨帯軑埭帶紿袋軚㻖貸軩瑇廗䈆叇㯂緿曃鴏戴𦄂艜黛簤蹛瀻霴黱襶靆鮘⺈刀刂叨忉朷氘舠釖鱽魛捯导岛島捣祷搗禂㠀嶋嶌㨶隝導壔嶹擣蹈隯禱到倒悼焘盗盜菿道稲箌翢稻衜噵衟檤燾䌦
翿軇瓙纛屶陦椡槝吺唗兜都兠蔸橷篼抖阧枓枡唞蚪陡鈄斗豆浢郖饾鬥梪毭脰荳逗酘痘閗窦䬦鬦餖斣𡂝闘䕆竇鬪鬬鬭乧艔丹妉单担単眈砃耼耽䒟聃躭郸單媅殚瘅匰箪頕儋勯褝鄲擔殫癉甔簞襌聸伔刐抌玬瓭胆疸紞衴掸赕亶撢撣澸
黕膽黮旦但帎沊泹狚诞柦疍啖啗弹惮淡蛋啿弾氮腅萏觛㗖窞僤蜑馾髧嘾噉彈憚誕憺暺澹蓞鴠禫駳癚嚪繵贉霮饏䨵扥扽当珰铛筜裆當噹澢璫簹艡蟷襠鐺挡党谠擋譡黨攩灙欓讜氹凼圵宕砀垱档荡婸愓菪嵣瓽逿雼碭儅潒瞊趤壋蕩檔
璗盪礑簜蘯闣灯登豋噔嬁燈璒竳簦覴蹬朩等戥邓凳墱嶝鄧隥瞪磴镫櫈鐙艠氐仾低奃彽羝袛堤趆隄滴樀镝磾鍉鞮狄廸籴苖迪唙敌涤梑笛荻觌靮馰髢嘀嫡滌翟頔敵蔋蔐䨀嚁篴䨤豴蹢鬄藡鏑䊮糴覿鸐厎坘诋呧底弤抵拞邸阺柢牴茋砥
埞掋㭽菧觝詆軧聜骶坔弟旳杕玓怟俤帝埊娣偙啇啲梊焍珶眱第谛递逓釱媂棣渧睇祶缔菂僀腣蒂鉪墑摕碲禘蝃遞墬慸締蔕遰嶳甋諦踶螮鯳嗲爹跌褺垤峌恎挕昳绖胅苵迭瓞眣戜䏲谍喋堞惵揲畳絰耋臷詄趃镻叠殜牃牒嵽碟蜨艓蝶褋
𢶣諜蹀鲽㬪曡疉鰈疊氎哋耊眰幉疂刁叼汈虭凋奝弴彫蛁琱貂碉鳭殦瞗雕鮉鲷鼦鯛鵰扚屌弔伄吊钓窎訋调掉釣铞铫竨銱雿魡蓧調瘹窵鋽藋鑃簓丟丢𠲍铥銩甸敁𠶧掂傎厧嵮滇槇槙瘨颠蹎巅顚顛癫巓巔攧癲齻典奌点婰猠䍄敟跕碘蒧
踮蕇點嚸电佃坫店阽垫扂玷钿婝惦淀奠琔殿蜔電墊壂橂橝澱靛𤩱癜簟驔椣丁仃叮帄玎疔盯钉耵虰酊釘靪奵顶頂㫀鼎嵿鼑濎薡鐤订忊饤矴定訂飣啶铤椗腚萣碇锭碠蝊鋌錠磸顁聢厾𡰪剢阇督嘟醏闍毒独涜读渎椟㱩牍犊碡裻読蝳獨
錖凟匵嬻瀆櫝殰牘犢瓄皾騳黩讀豄贕韣鑟髑韇韥黷讟笃堵帾赌琽睹覩賭篤妒杜肚芏妬度秺荰渡靯镀𩵚螙殬鍍簵蠧蠹多夛咄哆畓剟崜掇敠毲裰嚉夺铎剫敓敚喥悳敪痥鈬奪凙踱鮵鐸朵朶哚垛垜挅挆埵缍椯趓躱躲綞䤪憜亸鍺軃嚲奲
刴剁饳尮柁柮炨陊陏桗堕舵惰跢跥跺飿㻧墮墯嶞鵽枤垖堆塠嵟痽磓鴭鐜㨃頧对队兊兌兑対怼祋陮隊碓䇏綐對憞憝濧镦懟襨㬣薱瀩譈鐓耑偳剬媏端褍鍴𢭃短段断塅缎椴煅瑖腶葮碫锻緞毈簖鍛斷躖籪吨惇敦蜳墩墪撴獤噸撉橔犜礅
䔻蹲蹾驐𣎴盹趸躉伅囤庉沌炖盾砘钝逇顿鈍楯遁頓潡遯燉踲碷东冬咚㚵岽東昸氡苳倲鸫埬娻崠崬涷笗徚氭菄𩂓蝀鴤鼕鯟鶇㨂董墥箽諌嬞𣿅蕫懂动冻侗垌姛峒恫挏栋洞胨凍戙胴迵動硐棟湩絧腖働駧霘鮗鶫他它她牠祂铊趿塌溻榙
褟嚃闧蹹塔溚墖㗳獭鳎獺鰨亣拓挞狧闼𠴲㛥崉涾㭼搨䂿跶榻毾䈋遝遢㒓禢誻踏撻澾錔橽濌蹋鞜鮙㿹闒鞳嚺譶闥𪘁躢侤咜忑忒特貣蚮铽慝鋱螣蟘囼孡胎冭台旲坮抬邰枱炱炲苔菭跆㬃鲐箈臺颱䈚駘儓鮐嬯擡㸀檯薹籉太夳忲汰态肽
钛泰舦䣭酞鈦溙態燤粏夲弢涛绦掏詜嫍幍慆搯滔絛槄瑫韬飸䈱縚縧濤謟轁䤾鞱韜饕匋咷洮迯桃逃啕梼淘䄻绹陶萄祹綯蜪裪鞀醄鞉鋾錭駣檮饀騊鼗讨討套偷偸婾媮鋀鍮亠头投骰緰頭妵钭紏㪗敨飳黈蘣透綉坍㘱抩贪怹痑舑貪摊滩
瘫擹攤灘癱坛𡊨昙倓谈婒惔郯覃榃痰锬谭墰墵憛潭談醈壇曇燂錟餤檀磹顃罈壜藫譚貚醰譠罎忐坦䏙钽袒毯菼䞡鉭嗿憳憻醓璮襢叹炭埮探傝湠僋嘆碳舕歎賧汤坣铴湯嘡耥劏羰蝪䞶䠀镗薚蹚鏜鐋鞺鼞饧唐堂傏啺㭻棠㑽塘㜍搪溏鄌
榶漟煻瑭膅蓎隚樘𣙟磄禟糃膛橖篖糖螗踼糛螳赯醣餳䉎鎕餹闛饄𨆉鶶伖帑倘偒淌傥躺镋鎲儻戃曭爣矘钂烫摥趟燙熥膯鼟疼痋幐腾誊漛滕縢邆駦謄儯藤騰籐鰧籘驣霯虅剔梯㔸锑踢擿鷈鷉厗苐绨荑偍啼崹惿提稊缇罤鹈嗁瑅綈遆碮
徲漽緹蝭褆銻题蕛趧蹄醍謕蹏鍗鳀鴺題鮷鵜騠鯷鶗鶙禵鷤体挮躰骵鮧軆體戻𣧂屉迏剃朑洟倜悌涕屜悐惕掦逖惖揥替逷楴裼歒殢褅髰㬱嚏薙鬀嚔瓋籊趯䶑笹嵜帖怗贴聑萜貼铁蛈僣銕鋨鴩鐡鐵驖呫飻䴴餮旫佻庣恌挑祧㬸聎芀条岧
岹迢祒條笤萔䟭趒龆蓚蜩樤蓨鋚髫鲦鞗鎥鯈齠鰷宨晀朓㸠脁窕誂䠷窱斢嬥眺粜絩覜跳糶螩天兲婖添酟靔䋬㬲黇靝田屇沺恬畋畑盷胋畠甛甜湉菾䡒塡填搷鈿阗緂磌窴璳闐鷆鷏忝殄倎㖭唺㙉悿淟晪琠腆觍痶睓舔餂覥賟錪靦鍩㐁掭
睼舚碵鴫厅庁汀艼听町耓厛烃桯烴綎䋼鞓聴廰聼聽廳邒廷亭庭停莛婷嵉渟楟筳葶蜓榳聤蝏閮霆諪鼮𡈼圢甼侹娗挺涏梃烶珽脡颋艇誔頲𪊶凸宊禿秃怢突唋涋捸堗湥痜葖嶀鋵鵚鼵図图凃峹庩徒悇捈涂屠梌㻌荼途揬㭸稌菟圕塗嵞𣈥
瘏筡腯鈯圖圗廜潳蒤跿酴䣝馟鍎駼鵌鶟鷋鷵土圡吐钍釷兎兔迌堍鵵汢莵乇仛讬托扡汑饦杔侂咃拕拖沰挩捝託涶脫脱莌袥飥魠驝驮佗坨岮沱沲狏陀陁驼迱砣砤鸵紽袉堶跎酡馱槖碢䭾駄駝駞橐鮀鴕鼧騨鼍驒鼉彵妥庹媠椭楕嫷橢鵎
鬌鰖柝毤唾萚跅毻箨蘀籜推蓷藬弚䀃颓尵隤頹頺頽魋穨蹪蘈㿗俀僓腿蹆骽侻娧退煺蛻蜕褪駾湍猯煓䝎貒䵎团団抟剸團慱摶漙槫篿檲鏄糰鷒鷻疃彖湪褖吞呑涒啍朜焞噋暾㬿黗屯坉忳饨芚豘豚軘飩鲀魨㩔霕臀臋氽畽旽囲炵痌通嗵
蓪仝同佟彤峂庝哃峝狪晍桐浵烔砼茼蚒眮秱铜童粡𦨴筩詷赨酮鉖僮勭鉵銅餇鲖潼獞曈朣橦氃燑犝膧㼿瞳鮦𦒍䴀统捅㪌桶筒統綂樋恸痛衕慟憅嗯拏拿挐嗱镎鎿乸哪雫吶呐妠纳那肭钠娜納衲捺笝𥹉袦豽軜貀鈉靹蒳𤸻魶䈫疒讷抐眲
訥呢腉熋摨孻乃奶氖艿疓妳廼倷迺釢嬭奈柰耏耐𡞫渿萘鼐螚褦錼娞馁脮腇餒鮾鯘內内㐻氝錗孬呶怓挠峱硇铙猱蛲詉碙撓嶩憹蟯夒譊鐃巎垴恼悩脑匘堖惱嫐瑙腦碯䜀獶獿闹婥淖閙鬧臑脳羺啂槈耨獳檽鎒鐞譳囡男枏枬侽南柟娚畘
难莮喃暔楠諵難𧕴赧揇湳腩萳䈒蝻戁𦛚婻㬮遖恁嫩嫰囔乪嚢譨囊蠰鬞馕欜饢擃曩攮灢儾齉能𠹌𨶙妮尼坭㞾怩泥籾倪屔秜铌埿婗淣猊蚭䘦郳棿𤦤䛏跜腝聣蜺觬貎輗霓鲵鯓鯢麑齯臡伱你抳拟狔柅苨旎晲孴鈮馜儗儞擬隬檷薿聻屰氼
伲𣲷昵胒迡眤逆匿堄惄愵溺睨腻嫟暱誽䁥縌膩嬺𪙛袮捏揑苶帇𦘒圼枿涅痆聂臬陧啮惗喦敜湼菍隉嗫嵲踂噛摰槷踗镊镍嶭篞臲錜颞蹑嚙聶鎳闑孼㜸孽櫱籋囁蘖齧𣀳糱蠥鑈糵囓讘躡鑷顳钀䯀巕鸟茑㭤袅鳥嫋裊樢蔦嬝褭嬲㜵尿脲妞
⺧牛汼忸扭狃纽炄钮紐莥鈕靵衂䋴牜拈蔫年秊哖秥鲇鮎鲶黏鯰涊捻淰焾跈辇辗撚撵碾輦簐蹍攆蹨躎卄廿念姩唸埝艌鼰鵇囜您䋻拰脌娘嬢孃酿醸釀宁咛拧狞柠苧聍寍寕甯寗寜寧儜凝嚀嬣擰獰檸薴聹𧭈鑏鬡鸋橣矃佞侫泞濘澝奴孥
驽笯駑伮努弩砮胬怒傉搙郍挪梛傩儺橠诺喏愞𢜪掿搦逽锘搻榒稬糑諾蹃懦懧糥穤糯奻渜㬉暖煖煗餪黁农侬哝浓脓秾農儂辳噥濃檂燶膿蕽禯穠襛醲欁繷弄挊癑齈女钕籹釹沑恧朒衄䚼疟虐硸瘧垃拉柆翋菈搚邋旯剌砬揦磖嚹喇藞腊
揧楋瘌蜡蝋辢辣蝲臈攋爉臘鬎瓎镴鯻蠟鑞啦溂鞡囖肋仂㔹乐叻忇扐氻阞玏艻泐竻砳楽韷樂簕㦡鳓鰳了饹餎来來俫倈崃徕涞婡崍庲徠梾淶猍莱郲棶琜筙萊逨铼箂䋱𨂐錸騋鯠鶆麳唻赉睐睞赖賚濑賴頼顂𡂖癞鵣瀨瀬籁櫴㸊藾癩籟襰
勒雷嫘缧畾蔂擂㵢檑縲礌镭櫑瓃羸礧纍罍蠝鐳蘲轠儽壨鑘靁欙虆纝鼺厽耒诔垒絫腂傫誄樏磊磥蕌儡䉂蕾壘㵽癗櫐藟礨灅讄蘽鑸鸓泪洡类涙淚累𨀤酹銇頛頪錑䢮攂颣類䉪纇蘱禷塁嘞鱩捞撈劳労牢窂哰唠崂浶勞痨铹僗嘮㞠嶗憥𤩂
癆磱簩蟧醪鐒顟髝耂老佬咾姥恅狫栳荖铑䇭銠潦橑轑涝烙耢酪嫪憦澇躼橯耮軂珯硓𦛨粩蛯朥鮱瞜剅娄偻婁喽溇僂楼蒌嘍廔慺漊樓熡耧蔞蝼遱耬艛螻謱軁髅鞻髏嵝搂塿嶁摟篓甊簍㔷陋屚漏瘘镂瘺瘻鏤兰岚拦栏婪惏嵐阑葻蓝谰厱
澜儖斓篮褴懢燣燷镧闌璼藍襕譋𨅏幱攔瀾籃繿襤斕欄灆蘭礷籣襴囒灡讕躝欗钄韊览浨㛦揽缆榄漤罱醂壈懒覧㩜擥嬾懶孄覽䌫孏攬灠囕欖爦顲纜烂滥燗嚂濫爁爛瓓爤鑭糷襽啷勆郎欴狼郞阆斏桹㱢琅嫏廊硠稂锒榔瑯筤艆蓈蜋躴螂
鋃鎯駺朗朖烺㙟塱樃蓢誏㮾朤埌崀浪㫰莨𠺘蒗閬唥郒㘄崚塄棱楞碐稜輘䉄薐冷倰堎愣睖踜哩刕杝厘剓狸骊悡梨梩梸犁琍离粚荲喱棃㴝犂菞鹂剺漓㹈睝筣缡艃蜊𠻗𠼝嫠孷盠貍㦒樆璃糎蓠鋫鲡黎罹蔾𦺙錅篱縭䔧蟍褵嚟謧醨釐離斄
㰀瓈藜邌鏫鯬鵹黧囄蠡騹孋廲攡灕劙蘺鑗穲籬纚驪鱺鸝礼李里俚峛峢娌峲浬理逦锂粴裏裡豊鋰鲤兣澧禮鯉蟸醴鳢邐鱧欚力历厉屴立吏朸丽利励呖坜沥例㕸岦戾枥沴疠苈隶俐俪㤦栎疬砅苙赲轹㑦唎娳悧栗栛涖猁珕砺砾秝茘荔郦
唳婯笠粒粝脷莅莉蚸蛎傈凓厤棙痢蛠詈跞雳厯塛慄搮溧鉝鳨㬏暦歴瑮綟蒚蒞蜧厲蝷曆歷篥䔉隷𩶘鴗勵㻺磿隸鬁儮巁濿癘鎘嚦壢攊曞櫔櫟瀝爄犡瓅蠇麗櫪爏瓑皪盭矋礪礫禲藶㒧儷癧礰糲蠣蠫鷅麜囇攦𧢝觻躒轢酈欐讈𨊛轣攭瓥靂
𩧃鱱鱳靋栃檪鯏俩倆咧列劣冽劽㧜姴挒洌哷埒埓㤠㭞栵浖烈茢迾捩㭩猎脟蛚裂煭睙聗趔巤颲儠鮤鴷擸獵犣躐鬛㬯鬣鱲毟挘烮猟撩蹽辽疗聊僚寥嵺憀漻膋嘹嫽寮嶚嶛敹獠缭暸燎璙膫遼㵳療鹩屪廫簝繚蟟豂賿蹘鐐藔飉髎鷯叾䄦钌
釕鄝憭蓼瞭曢镽爒尥尦炓料尞廖撂窷镣爎溜熘蹓刘沠畄流浏琉留旈畱硫裗𨻧媹嵧旒蓅馏骝榴瑠蒥遛飗劉瑬瘤磂镏駠鹠橊璢疁镠癅蟉𩗩駵嚠懰瀏鎏鎦麍藰鏐飀騮飅鰡鶹驑㧕柳栁珋桺绺锍鉚飹綹熮罶鋶橮嬼羀六畂翏塯廇澑磟鹨霤
餾雡鐂飂鬸鷚桞奁帘怜连涟梿莲䙺連联亷廉溓匲嗹奩慩漣熑裢覝劆匳噒嫾憐槤磏聫蓮鲢濂濓聮螊燫縺翴聯臁薕褳謰蹥鎌镰櫣簾蠊鬑䥥鐮鰱籢籨敛琏脸裣摙璉蔹嬚斂㯬臉鄻羷襝蘞练炼恋浰殓堜㜃媡㱨湅链僆楝煉瑓萰潋練澰錬殮
鍊鏈㶑瀲鰊蘝戀㜻纞聨拎厸林邻临冧矝啉崊淋晽琳粦痳碄箖粼嶙潾獜鄰隣斴暽燐璘辚遴霖瞵磷臨繗翷麐轔壣瀶鏻鳞驎鱗麟㐭㨆菻亃凛凜撛廩廪懍懔澟檁檩癛癝吝恡悋赁焛賃僯蔺橉膦閵甐疄蹸藺躏躙躪轥良俍凉梁涼椋辌粮粱墚
綡踉樑輬糧両两㒳兩唡啢掚脼緉蜽裲魉魎亮哴悢谅辆喨晾湸量輌諒輛鍄煷簗〇伶刢灵囹坽夌姈岺彾泠狑昤朎柃玲苓凌瓴皊砱秢竛铃鸰婈掕棂淩琌笭紷绫䍅羚翎聆舲蛉衑陵菱詅跉軨祾鈴閝零龄䈊綾裬蔆霊駖澪錂魿鲮鴒鹷㬡燯䉁
䔖蕶霛霝齢鯪孁酃齡櫺蘦醽靈𣌟欞爧𤫩麢䖅龗岭阾袊领領嶺令另呤炩蓤霗瀮噜撸卢庐垆泸炉芦㭔栌胪轳鸬玈舻颅鲈魲盧嚧壚㠠廬攎櫚瀘獹璷曥櫨爐瓐臚蘆矑籚纑罏艫蠦轤鑪顱髗鱸鸕黸卤虏掳鹵硵鲁虜塷滷樐澛蓾魯擄橹磠镥嚕
擼瀂櫓氌艣鏀艪鐪鑥圥甪侓坴彔录陆峍勎赂辂娽淕淥渌硉陸鹿㪐椂琭禄䐂菉逯僇剹勠盝睩碌祿稑賂路塶廘摝漉箓粶𡀔戮樚熝膔蔍觮趢踛辘醁㯝潞穋錄録錴璐簏蕗螰蹗轆騄𩣱鹭簬簶鏕鯥鵦鵱麓鏴露騼籙鷺虂枦舮鈩氇罗啰頱囉罖
猡脶椤萝覙逻腡锣箩骡镙螺羅覶鏍儸覼騾𡤢攞玀欏𦣇蘿邏驘鸁籮鑼饠剆倮蓏裸躶瘰㩡㰁蠃臝曪癳泺峈洛络骆洜珞荦硦笿絡嗠落摞漯犖鉻雒駱鮥鴼鵅濼𧟌纙娈孪峦挛栾鸾脔滦銮鵉圝奱孌孿巒攣曫欒灓羉臠圞灤虊鑾癴癵鸞卵乱釠
亂抡掄仑伦囵沦纶侖轮倫圇婨崘崙惀淪陯棆㷍腀菕䈁綸蜦踚輪錀鯩埨碖稐耣论溣論磮龙屸咙泷昽栊珑胧茏眬砻竜笼聋湰隆滝𠾐嶐漋㡣篭蕯龍癃窿嚨巃巄瀧簼鏧曨朧㰍櫳爖瓏蘢霳矓礱礲龒籠聾蠪蠬襱豅躘鑨靇䮾驡鸗垄垅拢陇㴳
篢儱壟壠攏隴竉龓哢挵梇徿贚槞驴闾郘榈馿氀膢閭藘鷜驢吕呂侣侶挔㛎捋捛旅㭚梠祣稆铝屡缕絽屢膂履褛鋁膐儢穞縷褸穭寽垏律虑率绿𠷈嵂氯滤葎綠緑慮箻膟勴繂濾櫖爈鑢焒畧锊稤㔀圙㨼鋝鋢擽旮呷嘎嘠钆尜噶錷尕玍尬魀戈
仡圪犵纥𠯫戓肐牫疙咯牱哥胳鸽割搁袼𠺝滒戨歌𩾷鴐鴚擱謌鴿鎶呄㠷佮匌挌阁革敋㭘格茖鬲愅臵蛒嗝塥滆葛裓觡隔搿槅膈閣閤䈓镉鞈韐獦諽輵骼鮯韚鞷騔䘁轕哿舸个各虼個硌铬嗰箇彁櫊侅该垓姟峐郂陔晐荄赅畡祴絯該豥賅忋
改絠丐乢匃匄阣杚钙盖摡溉鈣戤概葢賌隑漑蓋㕢槩槪瓂给給皋羔羙高皐𦤎髙臯滜槔睾膏槹橰篙糕餻櫜韟鷎鼛鷱夰杲菒搞缟暠槀槁㵆稾稿镐縞檺藁藳吿告勂叝诰郜祮祰锆煰筶誥禞鋯勾佝沟钩袧缑鈎溝鉤緱篝褠鞲韝岣狗芶枸玽耇
苟笱耈耉蚼豿坸构诟购垢姤冓茩够夠訽媾彀搆詬雊構煹觏遘撀覯購甘忓攼杆㶥玕肝芉迀坩泔矸乹柑竿苷疳酐乾粓亁凲尲尴筸漧鳱尶尷魐仠扞皯秆衦赶桿笴敢稈感趕澉擀橄簳鰔鳡鱤干旰汵盰绀倝凎淦紺詌幹骭榦檊贑赣贛灨根跟
哏艮亘亙茛揯冈罓冮刚杠纲肛岡㭎牨疘矼缸钢剛罡堈掆釭棡犅堽綱罁鋼鎠岗㽘崗港焵筻槓戅戆刯庚畊浭㹴耕搄焿絚菮赓鹒緪縆羮賡羹鶊哽埂峺挭绠耿郠𣆳梗莄㾘綆䌄鲠骾鯁更堩暅䱍䱭掶椩估呱咕姑孤沽泒柧苽轱唂罛鸪笟蛄菇
菰觚軱軲辜酤鈲箍箛嫴橭䐻鮕鴣鶻夃古扢汩诂谷股牯⻣唃䀦罟羖钴骨啒淈脵蛊蛌詁鹄尳愲毂鈷馉鼓鼔嘏榖榾皷蓇穀鹘糓縎濲皼臌薣轂瀔盬瞽餶䶜蠱固故凅顾堌崓崮梏牿棝雇痼祻稒锢僱錮鲴鯝顧峠逧傦篐瓜刮胍栝𠵯鸹聒䒷歄煱
趏劀緺銽颳踻鴰騧叧冎剐剮寡䈑卦坬诖挂啩掛罣絓罫詿褂颪呙咼埚啯崞郭堝鈛锅嘓墎瘑蝈彉㗻濄蟈鍋彍囯囶囻国圀國帼腘幗慖漍聝膕蔮虢馘𧰒䆐果惈淉猓馃椁菓粿綶蜾裹槨輠錁餜鐹过過乖掴摑拐枴柺𧊅箉夬叏怪㧔恠归圭妫龟
规皈邽闺帰珪胿茥亀硅䅅窐規傀媯椝袿廆郌嫢摫瑰閨鲑嬀槻槼璝膭螝龜鮭巂歸鬶瓌騩鬹櫷宄氿朹轨庋佹匦诡𠱓垝姽恑攱癸軌陒庪鬼匭祪晷湀䍯蛫㔳觤詭厬㨳䤥蟡瞡簋攰刽刿昋炔柜贵㪈桂桧椢猤筀貴跪匱蓕劊劌嶡撌槶䈐䐴檜瞶
簂櫃癐禬襘鳜鞼鱖鱥关观官冠覌倌𠴨棺窤蒄関瘝癏観闗鳏關鰥鱞觀莞馆琯痯筦管輨舘錧館鳤毌丱贯泴悺惯掼涫貫悹㴦㮡祼慣摜潅樌遦盥罆䙛雚鏆灌爟瓘鹳矔礶罐鑵鱹鸛丨𠃌衮惃绲袞袬辊滚滾緄蓘磙蔉輥鲧𥕦鮌鯀棍睔㙥睴璭謴
光灮侊炗炚炛咣垙姯洸桄烡胱茪輄僙銧黆𩧉广広犷廣臩獷𪇵俇珖逛臦撗𩑈欟工弓公厷功攻杛供玜糼肱宫宮恭蚣躬龚匑塨幊愩觥熕躳碽髸䳍觵龏龔廾巩汞拱㧬拲㭟栱珙㼦輁鋛鞏䱋共贡羾唝貢莻㔶慐咔咖喀衉擖卡佧胩鉲垰裃匼㸯
𢈈柯牁珂科胢苛轲疴砢趷棵軻颏嗑搕犐稞窠萪鈳榼䐦颗樖瞌磕䌀蝌錒薖醘顆髁礚壳揢殼翗可坷㞹岢㪼炣渇嵑敤渴嶱礍克刻剋勀勊客恪𠳭娔尅课𠶲堁氪骒缂愙溘锞碦緙艐課礊騍𪃭嵙开奒揩锎開䤤鐦凯剀垲恺闿铠凱剴慨塏嵦愷楷
蒈輆嘅暟锴䁗鍇鎧闓颽忾炌炏欬烗勓愒愾鎎尻髛丂攷考拷洘栲烤稁鲓燺铐犒銬靠鮳鯌抠𦬅芤眍剾彄摳瞘䁱口𤘘劶叩扣敂冦宼寇㰯釦窛筘滱瞉蔲蔻簆鷇刊栞勘龛堪嵁戡龕冚坎侃砍偘埳惂莰欿塪歁槛輡檻顑竷轗看衎崁墈磡瞰闞矙
肎肯肻垦恳啃豤龈墾錹懇齦掯裉褃忼闶砊粇康𡐓嫝嵻慷漮槺穅䆲糠躿鏮鱇扛摃䡉亢伉匟囥抗犺邟炕钪鈧閌劥吭坑妔阬挳硁牼硜铿硻摼誙銵䃘鍞鏗扝刳矻枯胐郀哭桍堀崫㗄圐跍窟骷𦡆鮬狜苦㠸库俈绔庫秙趶焅喾絝袴裤瘔酷廤褲
嚳夸姱誇侉咵垮銙㐄挎胯跨骻舿扩拡括挄桰筈蛞阔萿葀廓頢髺濶闊鞟懖擴霩鞹鬠韕㧟蒯擓巜凷块快侩哙狯郐脍塊㱮筷鲙儈墤噲廥獪鄶膾旝糩鱠圦亏刲岿悝盔窥聧窺虧闚顝巋蘬奎晆頄馗喹揆䖯逵鄈骙戣暌楏楑葵隗睽魁蝰䤆頯㙺
鍨鍷櫆藈騤夔蘷虁巙𪆴犪躨煃跬頍蹞尯匮欳喟愦溃腃馈媿愧蒉瞆嘳嬇憒潰篑聩䙆樻聭蕢謉簣聵餽籄鐀饋鑎䰎宽寛寬臗髋髖欵款歀窾䕀窽鑧坤昆堃婫崐崑晜猑焜琨菎裈髠貇锟髡鹍蜫裩髨瑻褌醌錕鲲騉鯤鵾鶤悃捆阃壸梱硱祵稇壼
稛綑裍閫閸齫困涃㫻睏堒尡潉熴匡㑌劻诓匩哐恇洭邼框硄筐䒰誆軭忹抂狂诳軖誑鵟夼儣懭卝圹纩邝况旷岲況矿昿贶眖眶絖貺軦鉱壙躀鄺黋懬曠爌矌礦穬纊鑛砿絋筺空㚚倥埪崆悾涳硿箜錓鵼孔𣏺恐控𦁈鞚躻噷哈铪蛤奤丷诃抲欱
喝訶嗬蠚禾合何劾厒咊和姀河峆㪃曷柇狢盇籺紇郃阂饸哬㪉敆核盉盍啝㭱涸盒秴荷蚵龁惒渮菏萂訸颌楁毼詥貈䞦輅鉌阖鲄㕡熆鹖麧澕㿥頜篕翮螛魺礉闔鞨齕覈鶡皬鑉龢佫垎贺焃袔賀嗃煂碋熇赫㵑褐鹤㬞穒翯壑癋謞爀鶮鶴靎鸖
靏粭靍咍咳嗨还孩頦骸還海胲烸酼醢亥妎㧡骇害氦嗐餀駭𦤦饚塰嚡黒黑嘿潶𨭆茠蒿嚆薅薧毜蚝毫椃嗥獆貉噑獔豪𩖸嘷㬔獋諕儫嚎壕㠙濠籇蠔譹好郝号㚪㝀昊昦秏哠峼恏悎浩耗晧㬶淏傐皓滈聕號鄗暤暭澔皜皞曍皡皥薃鎬颢灏顥
鰝灝竓齁侯㤧矦喉帿猴鄇㬋葔瘊睺篌糇翭骺翵鍭餱鯸吼犼后厚垕後洉郈候逅堠豞鲎鲘鮜鱟佄炶顸㤷蚶酣頇嫨谽憨馠歛鼾邗含函咁肣邯凾虷唅圅娢浛崡晗梒涵焓琀寒嵅㮀韩甝筨䈄蜬澏鋡魽韓丆厈罕浫喊阚蔊㸁豃鬫㘚汉屽汗闬旱
岾哻垾悍捍涆猂㪋晘晥焊莟釬閈皔睅菡傼蛿颔馯漢蜭貋撖暵熯銲鋎憾撼𤳉翰螒頷顄駻雗瀚譀蘫鶾兯爳拫痕鞎佷很狠詪恨夯㰠斻杭苀迒绗珩笐航蚢䘕颃貥筕絎頏𨁈魧沆垳亨哼悙啈脝㔰姮恆恒桁烆胻鸻横橫衡鴴蘅鑅堼涥鵆乎乯匢
虍呼垀忽昒曶泘恗烀苸轷匫唿惚㧾淴虖軤嘑寣滹䓤雐幠戯歑𧩓膴謼囫抇弧狐胡壶瓳隺𠴱壷斛焀㗅喖壺媩湖猢絗搰楜煳瑚葫嘝𤌍鹕槲箶糊蔛蝴衚魱縠螜醐頶觳鍸餬䭌鵠瀫鬍鰗鶘鶦乕汻虎浒俿唬琥萀虝滸乥互弖戶户戸㸦冱冴帍护
沍沪芐岵怙戽昈枑怘祜笏婟扈瓠嗀楛綔雽嫭嫮摢滬鄠槴熩蔰鳸簄鍙嚛鹱護鳠韄頀鱯鸌粐錿鯱花芲哗嘩蒊錵华㕲㭉姡骅釪釫铧華搳滑猾㠏㦊撶磆鋘蕐螖譁鏵驊鷨化划㕦夻㕷杹画话桦婳崋畫畵觟話劃摦嫿嬅槬澅樺諣繣舙黊譮埖婲
椛硴糀誮璍吙剨耠锪劐鍃嚄豁攉騞佸活秮秳火伙邩钬鈥夥漷沎或货咟砉䄀俰捇眓閄𠵾掝获貨惑湱祸旤楇㨯禍蒦㗲奯霍濩獲謋檴镬嚯瀖矆穫䱛曤耯臛艧藿蠖嚿癨矐鑊靃怀徊淮槐踝懐褢褱㜳㠢懷瀤櫰耲蘹坏咶諙壊壞蘾灰㧑诙咴恢
拻挥洃虺晖烣珲袆豗婎噅媈揮㷇翚辉暉楎煇詼隓幑睳禈撝噕翬褘輝麾徽瀈隳蘳鰴囘回囬佪廻恛洄廽烠茴蚘迴痐逥蛔蛕蜖鮰悔毀毁𦞙毇檓燬譭卉汇会讳泋哕𡜦浍绘芔诲恚恵烩荟贿彗晦秽喙惠湏絵缋翙阓匯彙彚㥣會滙詯賄颒僡嘒
㨹誨圚寭慧憓暳槥潓瘣蔧䧥噦嬒徻橞殨澮濊獩蕙諱頮燴璯篲薈薉餯嚖瞺穢繢蟪㬩櫘繪翽藱譓儶鏸闠孈鐬靧譿顪屷灳璤懳欢犿歓鴅㹕鵍嚾懽獾酄歡讙貛驩环峘洹狟郇桓荁寏絙萈萑雈綄羦貆鉮锾圜嬛寰澴缳䦡阛環豲鍰镮鹮糫繯轘
鐶闤鬟瓛䴉缓䈠緩攌幻奂肒奐宦唤换浣涣烉患梙焕喚喛嵈愌換渙痪睆逭㬇㬊煥瑍豢漶瘓槵鲩擐澣鯇藧鰀瞣昏昬荤婚惛涽阍棔殙睧葷睯閽忶浑梡馄堚渾琿魂餛繉轋䮝鼲鯶诨俒倱圂掍混焝溷慁觨諢巟㠵肓衁荒朚塃慌㬻皇偟凰喤堭
媓崲徨惶湟隍黃黄楻煌瑝葟遑锽墴潢獚篁篊艎蝗熿璜諻癀磺䅿穔鍠餭鳇簧蟥韹趪騜鐄鰉兤鱑鷬怳恍炾宺晃晄奛谎幌詤熀䐠謊櫎愰㨪滉榥皝曂鎤皩縨叿吽呍灴轰哄訇烘軣揈渹焢硡谾𩐠輷薨鍧嚝轟仜弘妅红吰宏汯玒纮闳宖泓垬娂
洪竑䉺紅苰虹峵浤紘翃耾荭硔紭谹鸿渱竤粠鈜閎綋翝葒葓谼潂𨌆鉷鞃魟鋐彋霐蕻霟鴻黉𤄏黌晎㬴嗊讧訌閧撔澋澒銾闂鬨丌𢩦讥击刉叽饥乩刏机玑肌圾矶鸡枅芨咭姫剞唧姬屐积笄迹飢基绩喞嵆嵇敧朞犄筓缉赍勣嗘畸稘跡跻鳮僟
𠼻毄箕銈嘰槣畿稽緝觭賫躸齑墼機激璣積錤擊磯禨簊績羁襀賷隮櫅耭蹟雞譏鄿韲鶏譤鐖饑癪躋鞿鷄齎羇鑇虀覉鑙齏羈鸄覊亼及伋吉级即岌彶忣极汲皀亟佶诘钑卽姞急狤郆揤疾皍笈級脊䞘偮卙庴㭲焏觙谻㗊棘湒集塉嫉愱戢楫極
殛趌辑槉耤膌蒺銡㗱撃潗瘠禝箿踖鹡嶯橶濈蕀螏輯擮檝蕺蹐鍓藉襋艥籍轚鏶䳭霵鶺鷑雦雧几己丮妀犱泲虮挤掎鱾幾㦸戟鈘嵴麂魢撠擠穖蟣魕⺕彐彑旡计记伎纪坖妓忌技剂季芰际哜垍峜既洎济紀茍計剤紒继茤荠觊記偈寂寄㠱徛
㥍悸旣梞済祭塈惎㻑䐀臮兾痵継葪蔇裚暨漃漈稩穊蓟褀誋跽際霁鬾鲚暩稷諅鲫冀劑曁穄髻嚌檕濟罽薊覬檵㸄薺鵋齌懻癠穧繋骥鯚瀱繼蘎𩥉鱀蘮霽鰶鰿蘻鱭驥亽樭廭加乫夹伽夾佳抸拁泇㹢枷毠浃珈茄迦埉家浹痂梜笳耞袈傢猳跏
𠺢犌腵葭鉫嘉鉿镓豭貑𩶛鎵䕒麚圿忦扴郏唊恝荚郟戛莢铗戞蛱袷颊㮖蛺裌跲鞂餄鋏頬頰鴶鵊甲仮岬叚玾胛斚贾钾假婽徦斝椵賈鉀榎槚瘕檟价驾架𢱌嫁幏榢價稼駕糘疖阶皆接掲𣶏痎秸喈堦媘揭椄湝脻菨街階嗟嫅煯䃈稭蝔擑癤謯
鶛卩卪孑尐讦节刦刧劫岊刼㔚劼昅杰疌㘶㛃拮洁结倢桀衱訐迼偼婕崨捷莭傑喼㨗䀹結絜袺颉嵥㨩楬楶滐睫節蜐蝍詰鉣魝截榤碣竭𦵴鲒潔羯蓵誱踕鞊幯鍻鮚巀櫭蠞蠘蠽姐毑媎解觧飷檞丯介吤岕㠹庎戒屆届玠芥界畍疥砎诫借悈蚧
衸徣堺楐琾蛶犗誡骱魪褯鎅躤桝交艽芁姣娇峧浇郊骄胶茭茮椒焦蛟跤僬嘄𡏭虠鲛嬌嶕嶣憍澆膠燋膲蕉礁穚鮫鵁鹪簥蟭轇鐎鷍驕鷦鷮㭂臫角佼侥恔挢狡绞饺捁晈烄皎矫脚铰搅湫絞剿敫湬煍腳賋僥摷暞踋鉸餃儌劋徺撟撹徼憿敽敿
燞缴隦曒璬矯皦蟜繳譑孂㩰𧂈攪灚鱎叫呌峤挍訆珓窌轿较敎教窖㰾滘較嘂嘦斠漖酵噍嶠潐噭嬓獥藠趭轎醮譥㬭皭釂鵤櫵纐丩勼纠朻牞究糺鸠糾赳𨳊阄啾揂揪萛揫鳩摎樛鬏鬮九久乆乣奺灸玖舏韭紤酒镹韮匛旧㺩臼咎疚䆒柩柾倃
捄桕匓厩救媨就廄舅僦廏廐慦殧鹫舊匶鯦麔齨鷲汣杦欍戋奸尖幵坚歼间冿戔玪肩艰姦姧兼监偂堅惤㭴猏笺豜湔牋缄菅菺間搛椷椾煎犍瑊碊缣葌豣監睷箋蒹樫熞緘鲣鳽鹣熸𥡝篯縑蕑蕳艱餰馢麉瀐鞬鞯鳒礛䌠覸鵳瀸鐧櫼殲鶼韀鰹
囏虃鑯韉囝拣枧俭柬倹挸捡笕茧减剪梘检堿揀揃検減湕睑硷詃锏弿暕瑐筧简絸裥谫趼戩戬㨵碱儉翦撿檢𣜭謇蹇瞼礆簡藆襇襉謭繭鬋鹸瀽蠒鐗鰎劗鹻籛譾鹼襺见件見饯剑建洊牮贱俴剣栫涧珔舰荐健剱徤渐谏釼寋溅臶袸践旔楗毽
𤧣腱葥賎鉴键僭㨴榗漸劍劎㵎澗箭糋蔪諓賤趝踐踺劒劔諫鋻餞瞷磵薦螹鍳鍵擶濺繝㰄覵鏩瀳艦譼轞鐱鑑鑒鑬鑳彅墹橺礀殱巾今斤钅兓金釒津矜觔埐珒紟荕衿惍堻筋釿嶜鹶黅襟仅尽侭卺巹紧堇菫僅厪谨锦嫤廑漌盡緊馑槿瑾蓳儘
錦謹饉伒劤劲妗枃近进勁浕晉晋浸烬荩赆唫琎祲進寖搢溍禁缙靳墐㨷㬐暜瑨僸凚歏殣觐噤㬜濅璡縉賮嚍嬧㯲濜燼璶藎覲贐齽砛琻壗江姜将浆畕茳豇將畺葁摪翞僵漿螀壃缰橿殭薑螿鳉疅礓疆繮韁鱂讲奖桨傋奨蒋奬槳獎膙蔣耩䉃
講顜匞匠夅弜洚绛降弶絳袶勥酱嵹摾滰彊𣚦犟糡糨醤謽醬杢櫤坕坙巠京泾经亰秔茎涇荊婛惊旌旍猄経莖晶稉腈荆菁睛粳經葏兢精聙鲸鵛鯨鶁鶄麖鼱驚麠井丼刭㘫坓宑汫阱汬肼剄穽颈景頚儆幜憬暻燛璟頸憼璥蟼䜘警妌净弪径俓
𠗊浄胫迳倞凈弳徑痉竞婙婧桱梷淨脛逕𩇕竟痙竧靓傹敬㬌竫靖境獍誩踁静䝼靚镜靜曔濪瀞鏡競竸橸燝凥刟抅匊居拘泃狙驹苴挶疽痀眗砠罝娵婮崌掬梮涺陱椐琚腒菹趄跔锔雎艍蜛裾踘踙鋦駒鮈鴡鞠鞫鶋𦥑局㘲泦侷狊桔毩啹婅淗
焗椈毱湨菊郹犑輂僪粷跼諊趜躹閰橘檋駶䳔鵙蹫鵴巈鶪蘜鼳驧咀弆沮举挙矩莒椇榉榘筥龃蒟聥舉踽擧齟櫸欅句巨乬巪讵具姖岠怇怐怚拒拠洰邭昛歫炬苣钜俱倨倶冣剧秬埧埾惧据粔耟蚷袓犋詎跙距飓豦鉅锯寠愳窭聚虡劇勮屦踞
駏壉懅據澽窶䈮鋸鮔屨遽颶貗簴躆醵懼鐻㬬爠襷噘撅撧屩蹻亅𠄌孒孓决刔氒诀抉決弡㭈泬玦玨芵挗珏疦砄绝虳觉倔捔欮蚗崛掘斍桷殌覐觖訣赽趹䡈傕厥㭾焳絕絶覚趉逫鈌㟲劂㔢勪瑴谲駃嶥憰熦爴獗瘚鴂鴃噱憠橛橜蕝蕨爵臄镢
蟨蟩屫譎蹶蹷鶌匷嚼爑矍覺鐍鐝爝觼彏戄攫玃鷢欔矡龣𨰜貜躩钁姢娟捐涓焆脧瓹鹃裐勬䣺镌鎸鵑鐫蠲卷呟帣埍捲菤锩㷷錈臇劵奆巻倦勌桊狷绢隽淃眷睊絭罥䖭鄄睠絹雋飬𡡀慻蔨餋獧縳羂军𠣕君均㚬汮姰軍钧蚐袀桾皲莙菌鈞碅
皸皹覠銁銞鲪麇鍕鮶麏麕呁俊㽙埈峻捃浚郡陖馂骏㖥晙焌珺𧥺㑺棞畯竣㝦䇹箘箟蜠𨌘儁㕙餕寯懏燇濬駿鵔鵘攈䕑攟⺆冂冋坰扃埛絅駉駫蘏蘔冏囧㢠泂炅侰炯迥浻逈烱䢛窘颎煚綗僒煛熲澃褧七沏迉妻柒倛凄栖桤娸悽戚桼淒郪攲
期棲欺㱦萋蛣僛嘁慽榿漆緀慼槭𥉐諆諿霋䗩蹊㬤魌䥓鏚鶈亓齐圻岐岓忯亝其奇斉歧畁祁肵芪俟疧祇祈竒剘斊旂耆脐蚑蚔蚚颀埼崎帺掑淇猉畦跂軝釮骐骑棊棋琦琪萁萕蛴愭碁碕祺䓅锜頎旗粸綥綦綨䓫蜝蜞鬿齊璂踑禥蕲錡鲯懠濝
𪗆檱櫀𤪌臍藄騎騏鳍䰇鯕鵸鶀麒纃艩蘄蠐鬐鰭玂麡乞企屺岂邔启呇杞玘盀芑唘豈起啓啔婍啟绮晵棨䄎綮綺諬闙气讫忔気汔弃汽矵迄呮泣炁盵芞咠契砌栔欫氣訖唭夡棄湆湇碛葺摖暣碶噐憇甈𧡘器憩磜磧磩䚍罊蟿鼜缼渏緕褄螧簯
簱籏掐葜拤跒酠圶冾㓤帢恰洽殎硈愘髂鞐癿𡶐䦧聺且切妾怯匧窃郄𠲵悏挈洯㤲惬淁笡愜蛪㥦朅箧緁锲𡐤篋踥穕鍥藒鯜鐑竊𣠺苆倿媫籡悄硗郻嵪跷劁敲毃踍鄡鄥锹墝頝墽幧𢿣橇燆缲骹磽鍫鍬繑趬蹺鐰乔侨桥荍荞硚喬菬僑谯嘺嫶
㝯憔鞒樵橋蕎癄䀉瞧礄䎗趫藮鐈鞽顦𧄍巧釥愀髜俏诮峭帩窍陗殻翘誚髚僺撬撽鞘韒竅翹譙躈㚁槗犞㐀丘丠𠰋坵㚱㳋邱恘秋秌蚯媝楸萩鹙篍緧蓲蝵穐趥䨂鳅蟗鞦鞧鰌鰍鶖蠤龝叴囚扏犰玌汓肍求虬泅䊵虯俅觓訄訅酋釓唒㞗㤹㭝浗
紌釚梂殏毬球莍赇逎逑崷巯㥢渞湭皳盚巰煪絿蛷裘遒觩賕璆蝤銶醔鮂鼽鯄鰽搝糗釻蘒千仟圱圲奷扦汘阡佥岍杄汧芊迁欦瓩臤茾钎拪牵粁兛悭谸铅婜孯牽釺掔蚈谦鈆雃僉愆签鉛骞鹐慳搴撁箞諐遷褰謙顅檶攐櫏簽鵮孅攓騫攑鬝鬜
㩷籤韆仱岒忴扲拑前钤歬虔钱钳掮軡媊揵鈐靬鉗墘榩箝銭潛潜羬橬蕁錢黔黚濳騚騝灊鰬凵肷浅淺脥嗛嵰槏膁蜸遣谴缱繾譴欠刋㐸芡俔倩悓茜堑傔嵌棈椠慊皘塹㜞㟻歉綪蒨槧篏蔳輤儙篟壍縴䥅鰜竏鎆鏲籖鑓亲侵钦衾骎媇嵚欽綅
誛嶔親顉駸鮼寴㘦庈㪁芩芹埁珡秦耹蚙捦琴琹菦菳鈙雂勤嗪嫀溱禽靲慬噙斳鳹懄㩒擒澿瘽螓懃檎鬵蠄鵭坅昑笉梫赾寑锓寝寢鋟螼吢吣㤈抋沁唚揿菣𩂈搇撳䈜瀙藽呛戕戗斨枪玱羌羗猐跄椌腔嗆溬锖嶈戧槍牄瑲羫蜣锵篬錆謒蹌镪
蹡鎗鏘丬強强墙嫱漒樯蔃蔷墻嬙廧檣牆薔艢蘠抢羟搶羥墏繈襁繦鏹炝唴熗羻嗴獇狅靑青氢轻倾卿圊埥寈氫淸清郬傾蜻輕䨝鲭鑋夝甠剠勍情殑晴棾氰暒葝樈擏擎㯳檠黥顷苘请庼頃廎漀㷫請檾庆凊掅殸碃箐靘慶磘磬罄謦硘櫦区曲
伹佉匤岖诎驱坥屈岨岴抾阹㭕浀胠祛區紶蛆袪躯筁粬蛐詘趋嶇憈䈌駆敺誳镼駈麹髷魼趨麯覰軀麴黢覻驅鰸鱋佢劬斪朐胊鸲淭絇翑渠菃軥葋𤨎璖蕖鴝璩磲螶瞿蟝鼩㜹忂灈蘧戵欋氍臞癯籧蠷衢躣蠼鑺鸜取竘娶詓竬蝺龋齲厺去刞呿
㰦唟耝阒觑趣閴麮闃鼁覷迲衐缺阙蒛瘸却卻埆崅寉悫雀琷硞确阕塙搉皵碏鹊愨榷墧慤確碻趞燩闋礐闕鵲灍礭峑弮恮悛圈圏棬駩鐉㒰全权佺诠姾泉洤拳牷荃辁啳埢婘惓痊硂铨湶犈筌絟搼瑔葲觠詮跧輇蜷銓権踡縓醛鳈鬈騡鰁孉巏
齤權颧蠸顴𡿨犭犬汱畎烇绻綣虇劝券牶勧韏勸椦楾闎夋囷峮逡宭帬㪊羣群裙裠芎匔卭宆邛穷穹茕桏䅃笻赹惸焪焭琼筇舼蛩蛬𡦃煢睘跫銎瞏窮儝憌橩璚瓊竆藑藭瓗熍夕兮忚汐西覀吸希扱扸卥昔析穸肸肹俙徆怸恓饻唏奚㛓屖息悕
氥浠牺狶郗唽悉惜捿晞桸欷淅烯焁焈琋硒莃赥釸傒惁晰晳㱤焟焬犀睎稀粞翕舾菥厀嵠徯溪皙鄎锡僖榽煕熄熈熙緆蒠蜥豨餏嘻噏嬆嬉潝㾷瘜磎膝凞𠘕嶲憙㬛樨橀熹熺熻窸縘羲螅螇錫㱆燨䁯瞦蟋谿豀豯貕糦繥雟鵗譆醯鏭巇曦爔犧
觹隵酅觽鼷蠵鸂觿鑴习郋席習袭觋媳椺㠄嶍漝蒵蓆覡趘槢㩗檄薂隰謵鎴霫鳛飁騱騽襲鰼驨枲洗玺徙铣喜鈢葈葸鉨鉩屣漇憘蓰暿歖諰壐禧縰謑蟢蹝璽囍鱚矖躧匸卌戏屃系饩呬忥怬矽细係咥恄盻㤸㭡欯绤郤細釳阋喺椞翖舃舄趇慀
滊綌赩墍熂犔禊稧隙隟潟覤戱澙䈪蕮黖戲磶䮎虩餼鬩繫嚱闟㸍霼屭衋渓橲犠礂鯑虲疨虾㔠谺傄閕煆煵颬𧇍瞎蝦鰕匣侠狎俠峡柙炠狭峽烚狹珨陜硖祫翈舺㗇硤陿敮暇瑕筪舝遐碬辖磍縀縖赮魻蕸轄鍜霞鎋黠騢鶷閜丅下乤吓疜夏㙈
睱嚇懗罅夓鎼鏬圷梺溊些㱔揳猲楔歇蝎蠍劦协旪邪協胁垥恊拹挟奊峫挾脅脇衺偕斜㭨谐㖿翓嗋愶携瑎綊𦳃㙦熁膎勰撷緳缬蝢鞋頡擕諧燲㩦擷鞵攜纈襭讗龤写冩寫藛伳灺卸泄泻绁缷洩炧祄娎屑屓𢬿偞偰卨徢械烲焎紲亵媟屟渫𤗈
禼絏絬谢僁塮榍榭㴽屧暬緤褉噧嶰廨懈澥獬糏𧜵韰燮薢薤褻謝邂駴瀉鞢瀣爕䉏繲蟹蠏齘齛齥齂躞脋夑灱灲呺枭侾哓枵骁哮宯宵庨消绡虓鸮婋梟焇猇逍痚痟硝硣窙萧销揱綃翛萷嘋嘐歊潇箫踃嘵彇憢㩋獢銷霄膮蕭鴞穘簘蟂蟏魈鴵
嚣簫藃蟰瀟櫹𤑳髇嚻囂蠨驍髐毊虈洨㬵笅崤淆訤郩殽筊誵⺌⺍小晓暁筱筿皛曉篠皢謏孝肖効咲俲效校涍笑啸傚敩㗛詨嘨誟嘯歗熽鞩斅斆䕧恷滧休俢咻庥㳜修烋烌羞脙脩鸺臹貅馐銝髤樇髹鎀鵂鏅饈鱃飍苬朽綇滫糔秀岫峀珛绣琇
袖锈嗅溴璓褎褏銹螑繍繡鏥鏽齅鮴㔾仙仚屳先奾纤佡忺氙杴秈枮祆籼苮珗掀莶訮铦𣔙僊跹酰锨嘕銛鲜韯嬐憸暹鍁薟褼韱鮮蹮馦䵌廯攕纎鶱躚纖襳鱻伭闲妶弦贤咸挦胘娴唌啣娹婱涎絃舷蚿衔㭹痫蛝閑閒鹇嫌衘銜嫺嫻憪撏澖甉稴
誸賢㯗㵪燅諴輱醎癇癎瞯藖㰊礥䕔鹹麙贒鷳鷴鷼冼狝㧥显崄㭠毨烍猃蚬险赻険筅尟尠搟跣㬎禒銑箲嶮獫險獮鍌燹藓顕幰攇櫶譣蘚䘆䥪玁韅顯灦伣县岘𠜎现线臽苋咞姭宪県限哯垷娊娨峴㪇涀陥晛現硍莧陷馅睍絤缐羡献粯羨腺蜆
䧟僩僴𡐖綫誢撊線鋧憲㬗橌縣錎餡壏豏䤼麲瀗臔獻糮鼸僲繊鑦心妡忻辛邤昕杺欣炘芯盺俽㭢惞訢鈊锌新歆廞鋅嬜薪馨鑫馫枔㜦襑鐔伈㐰伩囟阠孞㭄𤣲信軐脪衅訫焮煡馸舋顖釁忄噺乡芗相香厢啌郷廂湘缃鄉鄊稥葙鄕箱緗膷薌襄
忀骧麘欀瓖镶鑲驤佭瓨详庠栙祥絴翔詳跭享亯响饷晑飨想銄餉鲞曏鮝蠁鯗響饗饟鱶向姠巷蚃项珦塂缿衖象項萫像勨銗嶑橡闀嚮蟓襐鐌鱌楿鱜星垶骍惺猩煋瑆腥蛵觪箵篂鮏曐觲鍟騂皨鯹刑行形邢侀陉型洐郉钘娙荥陘硎铏鈃滎鉶
銒鋞㨘睲醒擤兴杏姓幸性倖荇婞悻涬莕緈興嬹臖哘裄謃吁戌旴疞盱欨胥须晇訏顼虗虚谞媭幁揟湑𤟠虛裇須楈窢頊嘘需噓墟嬃縃蝑魆歔蕦諝譃繻鑐驉鬚魖俆徐蒣许呴姁诩冔栩珝偦許暊詡稰糈鄦醑盨旭伵序汿侐卹怴沀芧叙恤昫洫
䘏垿欰殈烅珬勖敍敘勗烼绪续酗喣壻婿朂溆絮訹慉煦賉槒漵潊盢瞁緒聟蓄銊獝稸緖魣瞲藇藚續鱮聓続蓿削疶㻡蒆靴㗾辥辪薛鞾穴斈乴学岤峃泶茓鸴袕踅壆學嶨澩燢㶅觷雤鷽雪鳕鱈血㕰吷坹狘桖谑趐謔瀥膤樰艝轌吅轩昍宣弲軒
梋谖喧塇媗愃愋揎暄煊瑄萱萲睻蓒儇箮縇翧蝖鋗懁禤諠諼蕿鍹駽翾蠉矎藼蘐譞玄玹㘣痃悬旋琁蜁嫙漩暶璇䁢檈璿懸咺晅烜选㔵選顈癣癬怰泫㧦昡炫绚眩铉琄眴衒袨渲絢楥楦鉉碹蔙镟鞙颴縼繏鏇讂贙鰚坃勋埙焄勛塤熏窨勲蔒勳
駨壎獯薫曛燻臐薰矄纁蘍壦醺寻廵旬驯杊巡畃询峋恂洵浔紃栒桪毥珣荀荨偱㜄尋循揗𩖰詢馴槆潃鲟噚㵌潯鄩攳樳燖璕蟳鱏鱘灥卂训讯伨汛迅侚巺徇狥殉訊訓訙迿逊奞巽殾稄愻賐遜噀潠蕈鵕爋顨鑂嚑凶兄㐫兇匈讻忷汹哅恟洶胷
胸訩詾賯雄熊焽诇焸詗夐敻𢿌之支卮汁吱巵汥坧枝泜知织肢芝栀秓秖胑胝倁疷祗秪脂衼隻梔祬椥臸戠搘稙綕榰禔蜘馶㯄鳷鴲鵄織鼅蘵执侄妷直姪値值聀釞埴執𡸜淔职貭植殖犆絷褁跖嗭瓡禃鉄墌摭馽嬂慹漐踯樴膱儨縶職蟙蹠軄
躑夂止只劧旨址坁帋扺汦沚纸阯怾抧𣲵芷咫恉指枳洔砋祉轵疻䇛紙衹淽訨趾軹䤠黹酯藢襧至阤志忮扻芖豸𨑨制厔垁帙帜治炙质峙庢庤挃柣栉洷致迣郅娡徏𢙺挚晊桎狾祑秩贽轾陟乿偫𠊷徝㨁掷梽楖猘畤痔秲秷窒紩翐袟袠觗铚鸷
傂𡍶崻彘智滞痣蛭軽骘寘廌搱滍稚筫置跱輊锧雉墆𡠹滯潌疐䎺製覟誌銍幟憄摯熫稺緻䐭膣觯質踬鋕擳旘瀄駤鴙劕懥櫛穉䉅螲㘉㜱懫擲贄櫍瓆觶鯯礩豑騭騺驇躓鷙鑕豒凪俧徔謢扎吒抯奓挓柤査哳偧喳揸渣楂劄摣皶樝觰皻譇齄齇
札甴闸蚻铡煠牐閘箚耫鍘譗厏拃苲眨砟搩鲊鲝踷鮓鮺䕢乍灹诈咤柞栅炸宱痄蚱詐搾溠榨𧨊霅醡蜇嗻嫬遮厇折歽矺砓籷虴哲埑㭙粍啠悊晢晣㭯袩辄喆蛰詟䇽谪馲摺輒磔輙銸辙蟄嚞謫謺鮿轍讁讋者乽啫锗禇赭褶襵这柘浙淛這樜潪
蔗鹧蟅䠦鷓着著捚斋斎摘榸䔝齋𩱳宅檡窄鉙债砦債寨瘵夈粂佋钊妱巶招昭盄釗啁鉊駋窼鍣皽爪找沼瑵䈃召兆诏枛垗炤狣赵笊肁旐棹䍮詔照罩䈇肇肈趙曌燳鮡櫂瞾羄⺥爫罀州舟诌侜周洲诪烐珘辀徟㨄掫淍矪郮鸼喌粥赒週輈䓟銂
賙輖霌盩謅鵃騆譸妯轴軸肘帚疛晭菷睭箒鯞纣伷呪咒宙绉冑咮昼紂胄皱荮酎晝粙㑳詋葤詶甃僽皺駎噣𤏲縐骤籀籕籒驟炿駲沾毡旃栴粘蛅飦惉詀趈詹閚谵噡嶦霑氈氊薝邅瞻鹯旜譫饘鳣驙魙鱣鸇讝斩飐展盏崭斬㠭椫琖㜊搌盞嶃嶄
榐颭嫸醆橏䁪輾𨫀𧬆𢅺黵占佔战栈桟站偡绽棧湛菚戦綻嶘輚戰虥虦覱轏譧𩥇驏蘸贞㘰针侦浈珍珎胗貞㖘帪栕桢眞真砧針偵桭祯酙寊嫃𡻈搸斟楨獉葴遉鉁靕榛殝瑧甄碪禎蒖蓁潧禛箴樼澵臻錱轃鍼薽籈鱵㐱诊抮枕弫昣轸屒畛疹眕
紾聄袗診軫絼缜裖䪴稹駗縥鬒黰圳纼阵甽侲挋䊶鸩振朕栚紖陣眹赈酖揕塦瑱誫賑䟴敶镇震鴆鎭鎮萙鋴张張章傽墇嫜彰𢕔慞漳獐粻鄣暲樟𤍤璋蔁遧餦蟑騿鱆麞仉长長涨掌漲礃丈仗扙帐杖胀账帳涱脹痮嶂幛障賬瘬瘴瞕粀幥鏱鐣争
佂姃征怔爭诤𠲜峥挣炡狰烝眐钲埩崝崢掙猙睁聇𨜓铮媜揁筝㬹徰睜鉦徴蒸箏徵踭篜錚鬇鯖癥氶抍糽拯掟晸愸撜整正证帧政郑症幀証塣䂻𧶄䈣諍鄭鴊證䥭凧朱劯侏诛洙邾株珠茱诸猪硃秼铢絑蛛袾誅跦槠蝫銖橥潴諸豬駯鮢鴸瀦櫫
櫧鯺鼄蠩竹泏竺炢笁烛窋茿笜舳逐瘃築燭蠋躅鱁孎灟曯欘爥蠾丶主𠰍宔拄罜渚陼煮詝煑嘱濐麈瞩劚囑斸矚伫佇住助纻坾杼注苎贮迬驻壴柱殶炷疰眝砫祝竚祩紵紸羜莇蛀嵀筑註貯跓軴铸筯鉒馵箸翥樦鋳駐篫霔麆鑄墸抓檛膼髽簻
卓拙炪倬捉桌棁涿棳穛𥼚䮓穱蠿圴彴汋犳灼叕妰斫浊茁丵浞诼酌啄啅娺㧻㭬梲烵斱晫椓琸䐁𥇍硺窡罬斲槕撯擆禚䅵諁諑鋜濁篧𨧧擢斀斵濯𤏸櫡謶镯鵫灂蠗鐯鐲籗鷟籱劅窧拽跩隹追骓锥錐騅鵻沝坠桘笍娷缀惴缒畷甀硾綴膇赘墜
諈醊縋錣餟礈贅譵轛鑆专叀専砖專塼嫥鄟瑼磗膞颛甎磚諯蟤顓鱄转孨転竱䡱轉灷啭堟瑑腞蒃僎赚撰篆馔篹賺襈譔饌囀籑宒肫迍窀谆諄衠准埻準綧訰稕凖妆庄妝娤桩荘梉莊湷粧装裝樁糚壮壯状狀壵焋漴撞戇庒中伀汷刣妐彸忠泈
炂终𦬕柊盅钟䇗舯衳衷終鈡幒锺蔠銿螤螽鍾鼨蹱鐘𩅞籦肿种冢喠尰塚塜歱煄腫瘇種踵穜仲众妕狆祌重茽蚛衶偅眾堹媑筗衆諥迚吃侙哧彨胵蚩鸱眵笞喫瓻訵嗤媸痴絺摛噄誺瞝鴟螭癡齝魑彲黐弛池驰坻岻迟持竾茌歭荎蚳赿筂貾趍
遅馳箎遟墀漦踟篪遲謘𨨲尺叺呎侈卶齿垑胣恥㶴粎䊼耻蚇欼歯袲袳裭鉹齒褫彳叱斥杘灻赤饬抶勅恜炽勑翄翅敕烾痓啻㥡湁硳飭傺痸腟跮鉓雴瘈翤銐慗憏瘛翨遫熾懘趩䠠饎鶒鷘妛麶叉扠杈𤜯肞臿挿偛插揷馇嗏銟锸疀艖鍤餷秅垞
查茬茶嵖猹靫搽詧察槎碴𥻗檫𩟔衩蹅镲鑔奼汊岔侘诧姹紁差䟕詫车伡車俥砗唓莗硨蛼扯偖䞣撦屮彻坼迠㤴烢㿭㔭聅掣硩頙徹撤澈㬚勶瞮䜠爡芆拆钗釵侪柴豺祡喍儕齜茝虿袃訍瘥蠆囆抄𢁾弨怊欩钞訬焯𤙴超鈔勦䫿牊晁巢巣朝鼌
漅鄛嘲樔潮窲罺轈鼂謿吵炒眧焣煼麨巐仦仯耖觘抽婤搊瘳篘犨犫仇怞俦帱栦惆紬绸椆畴絒菗愁皗稠筹酧酬綢裯踌儔雔嚋嬦幬懤燽薵雠疇籌躊醻讎讐丑丒吜杻杽侴偢瞅醜矁魗臭臰殠遚辿觇搀梴覘鉆裧鋓幨襜攙婵谗棎湹馋煘禅缠
僝獑蝉誗儃嬋廛潹潺緾澶磛鋋毚禪镡瀍蟬鄽儳劖蟾嚵巉瀺酁欃纏纒躔镵艬讒鑱饞产刬旵丳斺浐剗谄啴產産铲阐剷蒇嵼摌滻嘽幝諂閳骣燀蕆簅冁繟譂辴鏟闡囅灛讇忏硟㬄摲懴颤懺羼韂顫壥抻捵郴琛嗔綝瞋諃賝縝謓尘臣忱沈沉辰
陈迧宸茞敐晨莀莐訦谌軙陳愖揨鈂煁塵瘎樄蔯霃諶螴薼麎曟鷐趻硶碜墋夦磣踸鍖贂醦疢衬龀趁趂榇齓儬齔儭嚫谶櫬襯讖烥伥昌倀娼淐猖阊晿琩菖锠裮錩閶鲳䮖鯧𪂇鼚仧兏肠苌镸尝偿常徜瓺萇甞腸嘗塲嫦瑺膓鋿償嚐鲿鏛鱨厂场
昶惝場敞僘厰廠氅鋹怅玚畅倡鬯唱悵焻瑒暢畼誯韔椙蟐泟阷柽爯浾称偁蛏㛵棦湞牚琤赪僜憆摚稱靗撐撑緽橕瞠赬頳檉竀穪蟶鏳鏿饓丞成朾呈承枨诚乗城娍峸洆郕乘埕宬挰晟珹脀掁珵窚脭荿铖堘惩棖椉程筬絾塍塖溗碀䇸裎誠畻
酲鋮憕澂澄橙檙瀓懲𨅝騬侱徎悜骋庱逞睈騁秤鯎出岀初摴樗貙齣刍芻除厨豠锄媰滁耡蜍趎鉏雏㕑犓蒢蒭㡡廚蕏鋤橱篨幮櫉雛櫥藸蹰躇鶵躕処杵础储椘楮楚褚濋儲檚礎齭鸀齼亍处竌怵拀绌豖柷欪竐俶敊畜㙇埱珿絀處傗琡搐滀触
鄐踀閦儊嘼蓫諔憷斶歜臅黜觸矗榋橻璴蟵欻歘逴踔戳⻌⻍辶辵㲋娕娖惙涰绰婼腏辍䓎酫綽趠輟龊擉磭繛歠嚽齪鑡揣搋膗啜嘬膪踹吹炊垂倕埀捶棰椎腄陲搥菙锤槌箠錘顀鎚龡巛川氚穿剶猭瑏伝传舡舩船圌傳椽遄暷篅輲舛荈喘歂
僢踳汌串玔钏釧賗鶨旾杶春堾媋萅暙椿瑃箺蝽橁輴膥櫄鰆鶞𪂹纯唇浱純陙淳脣莼湻犉滣鹑漘蒓蓴醇醕錞鯙鶉偆惷萶睶賰蠢刅疮窓窗牎摐牕瘡窻床牀噇幢闯傸摤磢闖创怆刱剏剙凔創愴充冲忡沖茺浺珫翀舂嘃摏徸憃憧衝䆹罿艟蹖
虫崇崈隀緟蝩褈蟲爞宠埫𠖥寵铳揰銃尸失师呞虱诗鸤屍施浉狮邿師絁釶湤湿鈟溮溼獅葹詩鉇鉈瑡蒒蓍鳲蝨鳾𧩹鲺濕𦒈褷鍦𪀔鯴鰤鶳襹十饣石乭辻时识𠰴实実旹姼峕拾炻蚀食飠埘時祏莳寔湜塒溡遈鉐實榯蒔蝕䈕鲥鼫識鼭鰣史矢
乨豕使始驶兘宩屎笶鉂駛士氏礻丗世仕市⺬示卋式忕⺮亊似叓戺事侍势呩柹试饰冟室恀恃拭是昰枾柿眂视贳栻烒眎眡舐轼适铈視豉逝釈媞崼弑徥揓谥貰释勢嗜弒睗筮觢試軾鈰鉃飾舓誓鉽奭適䤭銴餙噬嬕澨諟諡餝螫謚遾簭釋襫
佦竍匙嵵榁煶篒鮖籂鰘杀沙纱乷刹剎砂唦猀粆紗桬殺毮㸺莎铩痧硰煞裟榝樧蔱魦鲨鯊鯋鎩傻儍倽唼啑啥帹厦喢萐廈㰼歃翜䈉箑翣閯霎繌奢猞赊畬畲輋賒賖檨舌佘虵蛇蛥𧵳舍捨䬷厍设社厙射涉涻渉設赦弽慑摂摄滠慴摵蔎歙韘騇
蠂䜓懾攝灄麝欇舎㴓筛酾篩簁簛釃繺晒㬠閷曬弰捎烧梢莦焼稍旓筲艄蛸輎燒䈰颵髾鮹勺芍柖玿苕竰韶少𨈘䔠劭卲绍邵哨娋紹袑睄綤潲蕱収收手守垨首艏寿受狩兽售授涭绶痩壽綬夀瘦䛵獸鏉扌獣山彡邖删刪杉姍姗芟钐柵狦珊舢
苫衫埏痁軕挻笘脠跚剼搧嘇幓煽潸澘檆縿膻羴羶鯅㰑𧨾闪陕閃陝㪎晱煔睒熌覢讪汕㣌疝剡扇訕赸掞釤傓善銏骟僐墠墡潬𥔱缮鄯嬗擅樿歚膳䱉磰謆赡䄠繕蟮䥇蟺譱贍鐥饍騸鳝灗鱓鱔圸杣閊敾申屾扟伸身侁呻妽籶绅诜姺柛氠珅穼
籸娠峷甡眒砷敒深紳莘兟棽訷葠裑詵𠻝甧蓡蔘燊駪鲹曑薓鵢鯵鰺什甚神䰠弞邥审矤哂矧宷谂谉婶渖訠審諗頣魫曋頥瞫嬸瀋㰂覾讅肾侺昚胂涁眘渗脤祳腎愼慎椹瘆罧蜃蜄滲鋠瘮堔榊鰰伤殇商觞傷墒慯滳漡殤熵蔏螪觴謪鬺垧扄晌
赏賞贘鑜丄上尙尚恦绱緔鞝仩裳升生呏声斘阩昇泩狌栍殅牲珄苼㱡陞笙陹湦焺甥鉎聲鼪鵿绳憴繩譝省眚偗渻圣胜晠剰盛剩勝貹嵊琞聖墭榺蕂賸竔曻橳书殳尗抒纾㑐叔杸枢姝陎倏倐書殊紓掓梳淑焂軗疎疏舒菽鄃摅毹綀输跾踈樞
瑹蔬輸橾鮛攄儵鵨秫婌孰赎塾熟璹贖鼡属暑黍暏署蜀鼠潻曙㻿薥薯癙藷襡屬襩钃朮术戍束沭侸凁咰怷树竖述恕捒荗庶庻絉術尌隃数竪腧蒁裋鉥墅漱潄數澍豎樹濖錰䉀鏣鶐虪瀭糬蠴鱪鱰刷唰耍誜说哾說説妁烁朔铄欶硕矟搠槊碩
蒴獡箾𦂗鎙爍鑠衰摔𨄮甩帅帥𣘚蟀卛谁脽誰水帨涗涚祱稅税睡裞瞓氵氺閖闩拴閂栓涮腨吮顺舜順橓瞚蕣瞬鬊双霜雙孀骦孇騻欆礵鷞鹴䉶艭驦鸘爽塽慡漺樉縔䗮灀鏯⺜日驲囸釰鈤馹惹热熱娆饶桡荛嬈橈蕘襓饒扰隢擾绕遶繞厹禸
柔媃揉渘煣瑈䐓葇糅蝚蹂輮鍒鞣瓇騥鰇鶔粈楺韖⺼肉宍腬呥肰蚦衻袇蚺袡然髥嘫㜣髯燃繎䔳冄冉姌染珃苒媣橪蒅人亻仁壬忈朲忎秂芢鈓魜銋䌾鵀忍栠栣荏秹荵棯稔刃刄认仞仭讱任屻岃㠴扨纫⺶𦍌妊杒牣纴肕轫韧饪姙祍紉紝衽
訒軔梕㸾軠䇮絍腍袵靭靱韌飪葚認餁綛躵穣儴勷瀼獽蘘瓤禳穰䉴躟鬤壌嚷壤攘爙纕让懹譲讓扔仍𠮨㭁辸礽㺱陾芿如邚侞帤桇茹铷渪筎袽蒘銣蝡儒蕠鴑嚅嬬孺濡鴽曘燸薷蠕襦颥醹顬鱬汝肗乳辱鄏擩入洳嗕媷溽缛蓐縟褥扖杁込鳰
嶿挼捼叒若弱偌渃焫鄀楉蒻箬篛爇鰙鰯鶸嵶婑桵甤緌蕤䬐橤蕊蕋繠蘂蘃汭枘芮䄲蚋锐瑞睿蜹銳鋭叡𨧨㪫壡堧撋壖阮朊软耎偄軟媆瑌碝緛䓴輭瓀礝瞤闰润閏閠潤橍膶茸戎肜栄狨绒容㭜毧茙荣烿䡆嵘䇯絨羢媶嫆嵤搈搑溶㣑榕榮榵
熔瑢蓉穁蝾镕縙融螎褣駥髶嬫嶸爃鎔瀜巆曧蠑𪃾冗宂坈𢫨傇軵氄鴧穃乲孜兹咨姕姿茊栥玆紎茲赀资淄秶缁谘嗞孳嵫椔湽滋粢辎孶葘觜訾貲資趑鄑锱禌稵緇鈭镃龇輜澬諮趦輺錙髭鲻鼒鍿鎡璾頿頾鯔鶅齍𪗋鰦蓻𠂔仔吇杍㺭姉姊矷
秄呰籽耔胏虸秭梓笫釨啙紫滓訿榟字自芓㧘倳剚恣牸茡渍眥眦胔胾漬㱴子崰橴帀匝沞咂迊拶紥紮鉔魳臜臢杂砸偺喒韴雑𢶍嶻磼襍雜囋囐雥咋则択沢择泎泽责則迮荝唶啧帻笮舴責溭矠嘖嫧幘箦樍諎赜擇澤皟瞔簀礋謮賾蠌襗齚䕪
齰鸅夨仄庂汄昃昗捑崱伬蔶災灾甾哉栽烖渽菑睵賳宰崽䏁再在扗侢洅载傤載酨儎縡贼戝賊鲗鯽蠈鰂鱡傮遭糟蹧醩凿鑿早枣蚤棗澡璪薻繰藻灶皁皂唕唣梍造喿艁慥噪燥簉譟趮躁竃竈栆邹驺诹郰陬棷棸菆鄒箃緅諏鲰鄹鯫黀騶齱齺
赱走奏揍楱㵵鯐兂糌簪簮鐕鐟咱昝沯桚寁㳫揝噆撍儧攅攒儹攢趱礸趲暂㔆暫賛赞錾濽蹔鄼瓉贊鏨瓒㜺灒讃酇瓚禶襸讚饡怎谮譖譛囎匨牂羘赃賍臧賘蔵贓髒贜驵駔㘸奘弉脏塟葬銺臓臟増增憎缯鄫橧熷璔矰磳罾繒譄锃鋥赠甑贈鱛
租葅蒩卆足卒哫崒崪族傶箤踤踿镞鏃诅组阻俎爼珇祖組詛靻䔃鎺昨秨捽莋椊琢稓筰鈼𠂇左佐唨繓作坐㘴岝岞怍阼侳胙唑座祚做㤰㭮袏葃葄飵㘀糳咗蓙厜朘㭰嗺樶蟕纗嶊嘴嶵噿璻栬絊酔最晬祽稡罪辠槜酻醉蕞鋷錊檇檌枠穝钻𨉖
躜鑽繤缵纂纉籫纘攥鑚尊墫壿嶟樽遵繜罇鐏鳟鱒鷷僔噂撙䔿譐捘銌鶎宗倧综骔堫嵏嵕惾棕猣腙朡椶葼嵸䁓稯綜緃熧䈦緵翪蝬踨踪磫鍐豵蹤騌鬃騣鬉鬷鯮鯼鑁总偬捴惣愡揔搃傯㷓摠総蓗縂總鏓纵昮疭倊猔碂粽糉瘲縦錝縱糭潈呲
疵赼偨趀跐𩨨骴縒蠀髊齹词㘹垐柌珁堲祠茈茨㤵瓷䛐詞辝辞慈甆磁雌䨏鹚糍辤飺餈㘂嬨濨薋鴜礠辭鶿鷀此佌泚玼皉紪鮆朿次伺佽刺刾庛栨茦絘莿蛓赐賜螆㩞嚓擦攃礤遪囃冊册侧厕恻拺测敇畟側厠笧粣廁惻測策萗筞筴萴墄㨲箣
蓛憡𥰡簎偲婇猜才犲材财財裁溨纔毝采倸啋寀彩採睬跴綵踩埰棌菜蔡縩撡操糙曺曹嘈嶆漕槽蓸𥕢艚螬褿鏪艸草愺懆騲肏鄵襙⺾艹凑湊腠辏輳参參叄飡骖叅喰湌傪嬠餐驂残蚕惭殘慚蝅慙䗝嬱蠶蠺惨朁慘憯穇篸黪黲灿㛑掺孱粲摻
澯燦璨薒謲儏爘嵾岑涔笒梣仓仺伧沧苍鸧倉舱傖嵢滄獊蒼艙螥鶬藏鑶䅮賶濸罉欌曽噌层曾層嶒㬝竲䉕驓蹭粗觕麁麄麤徂殂促猝脨酢瘄誎趗噈憱蔟踧醋瘯簇縬蹙䥄鼀蹴蹵顣搓瑳撮磋遳蹉醝㭫虘痤睉矬嵯嵳蒫蔖鹾酂鹺躦脞剉剒厝
夎挫措莝莡斮棤逪锉错蓌歵銼錯崔催凗缞墔㜠嶉慛摧榱獕槯磪縗鏙漼璀趡皠伜忰疩倅粋紣翆脃脆啐啛悴淬毳焠脺萃瘁粹綷翠膬膵濢竁顇臎襊乼汆撺鋑镩蹿攛躥鑹櫕巑欑穳窜殩熶篡簒竄爨村邨皴踆澊竴存侟拵刌忖寸吋籿匆囪囱
忩枞苁怱悤𡟟棇焧𤧚葱漗聡骢暰樅樬熜瑽璁緫聦聪蓯蔥瞛燪篵聰蟌鍯繱鏦騘驄从丛従婃孮徖從悰淙琮慒漎潀潨誴賨賩樷叢藂灇欉爜憁謥茐厶纟丝司㺨糹私咝泀俬思虒鸶媤斯絲缌蛳楒㴲鉰飔凘厮榹禗罳蜤锶嘶噝𡡒廝撕澌磃禠𥯨
緦鋖燍蕬螄䔮蟖蟴颸騦鐁𩅰鷥鼶籭死巳亖四寺汜佀価兕姒孠杫泗泤祀饲驷㭒柶牭娰洍涘肂飤笥耜釲竢覗嗣肆貄鈶鈻飼駟禩儩蕼瀃恖銯仨挱挲撒洒訯靸潵灑躠卅泧飒脎鈒萨摋颯馺薩櫒虄𠮿隡閪色洓栜涩啬铯歮琗雭嗇瑟歰銫澁懎
擌濇濏瘷穑澀璱瀒穡繬轖鏼譅飋渋穯毢愢揌塞毸腮噻鳃顋䰄鰓䈢嗮赛僿賽簺嘥掻骚慅搔溞缫繅臊鳋騒騷鰠鱢扫掃嫂䕅埽瘙氉矂髞螦捜廀馊嗖廋搜摉溲獀鄋摗𢲷蒐蓃锼飕䈭艘螋醙鎪餿颼颾騪叜叟傁嗾瞍擞薮擻櫢藪籔嗽膄瘶三弎
叁毵䈀毿犙鬖仐伞傘糁糂馓糝糣糤繖鏒鏾霰饊俕帴悷散閐壭毶厁橵森椮槮襂桒桑嗓搡磉褬颡鎟顙丧喪槡僧䒏鬙苏甦酥稣窣穌櫯蘇蘓囌俗玊夙诉泝肃洬涑珟素宿梀殐粛莤速骕傃粟訴谡嗉塐塑嫊愫溯溸肅鹔僳㔄愬榡膆觫趚遡憟樎
樕潚潥𤢂碿蔌遬鋉餗㬘橚璛縤簌謖蹜藗驌鱐鷫鯂唆㛖娑桫梭莏傞睃嗍羧摍缩蓑趖簑䔋簔縮髿鮻所乺㪽唢索琐惢锁嗩𢱢溑暛瑣璅褨䖛鎈鎍鎖鎻鏁逤溹蜶琑嗦夊芕虽倠哸浽眭荽荾滖睢綏葰熣濉鞖雖绥隋遀随隨瓍膸䭉瀡髄髓亗岁砕
祟谇埣嵗𡻕歲歳煫睟碎遂穂誶賥嬘澻隧檅檖燧璲穗繀邃禭穟繐旞繸襚譢鐆鐩韢狻痠酸匴祘笇筭算蒜孙狲孫荪飧搎猻飱槂蓀蕵薞损笋隼筍損榫箰簨鎨鶽忪松枀娀柗倯凇崧庺梥淞菘嵩硹蜙憽濍𩃭檧鍶鬆怂悚耸竦傱愯㨦楤嵷慫聳駷
讼宋诵送颂訟頌誦餸枩鎹呵阿锕嗄啊喔噢哦筽妸妿钶娿婀屙痾讹吪囮迗俄娥峨峩涐珴莪訛皒睋䄉鈋锇鹅蛾誐磀頟额魤隲額鵝鵞譌𡅅鰪枙砈頋噁騀厄屵戹歺呃岋扼阨呝苊轭阸咢咹𠱥垩姶峉砐匎恶砨䑥蚅饿偔卾堊悪掠略略硆谔軛
阏㗁堮崿惡愕湂䝈豟軶鄂鈪廅搤搹㮙琧腭萼詻遌遏僫蝁锷鹗頞颚餓魥噩蕚覨諤閼餩貖鍔鳄歞顎礘櫮鰐鶚讍齃鑩齶鱷擜鵈哀哎唉埃娭挨欸嗳溾銰锿噯鎄啀捱皑溰嘊敱敳皚癌騃毐昹娾矮蔼躷濭霭藹靄伌艾㘷爱砹硋㗒嗌塧嫒愛碍隘
叆暧瑷閡僾䅬嬡懓壒懝曖璦薆餲鴱皧瞹䔽馤礙譪譺鑀靉鱫诶誒凹㕭柪梎軪爊敖厫嗷嗸嶅廒滶獓獒隞摮𣊁熬璈蔜遨磝翱聱螯翺謷謸鳌鏖鰲鷔鼇抝拗芺袄镺媪媼襖㘭岙扷坳垇岰奡奥傲奧骜㜜嫯慠𢳆墺嶴懊擙澳隩鏊驁翶讴沤欧殴瓯
鸥塸漚歐毆熰鴎甌𡂿謳櫙鏂鷗䥲膒齵𠙶吘呕偶腢嘔㒖耦蕅藕怄慪藲安侒峖桉氨庵䀂谙媕菴痷腤萻葊鹌誝蓭鞌鞍盦諳馣盫鵪韽鶕玵啽雸儑垵俺唵埯铵揞隌罯銨犴岸按洝案胺荌豻堓婩䅁晻暗錌闇鮟䮗黯奀恩𡟯煾蒽峎摁䭓肮骯卬岇
昂昻䒢㭿枊盎醠鞥儿而児侕兒峏洏陑栭胹荋唲鸸粫聏袻輀䋩鲕髵隭鮞鴯轜厼尒尓尔耳洱迩饵栮毦珥铒爾餌駬薾邇趰二弍弐佴刵咡㛅贰貮衈貳誀鉺樲一乊弌衤伊衣医吚壱依咿𠲖㛄㳖洢祎𣐿悘猗铱壹揖欹蛜郼嫛漪禕稦銥嬄噫夁瑿
鹥繄䫑檹毉醫黟譩鷖黳乁仪匜圯夷冝宐沂诒迆侇宜怡沶狋饴咦姨峓巸弬恞拸柂珆衪贻迤宧扅栘桋㺿瓵眙胰訑貤迻痍移耛袘凒羠萓蛦詑詒貽媐暆椸誃跠遗頉颐飴疑儀熪箷嶬彛彜螔遺頤寲嶷簃顊𩓧䱌彝彞謻鏔觺㰘讉鸃乙已以钇佁
𠯋攺矣肔庡舣苡苢蚁釔倚扆酏偯笖逘崺旑椅鳦鉯旖裿踦輢敼螘䧧檥䭲礒艤蟻顗轙齮乂𠂆义亿弋刈忆肊艺议亦㐹伇屹异伿佚劮呓坄役抑杙耴芅译邑佾呭呹峄怈怿易枍欥㳑泆炈秇绎苅诣驿俋奕帟帠弈𢏗枻洂浂玴疫羿𦏸轶㑥唈垼悒
挹捙栧栺欭浥浳益衵谊勚埶埸悥掜殹異硛羛翊翌袣訲訳豙豛釴陭隿幆敡晹棭殔湙焲𤥿䌻蛡詍跇軼逸鈠亄兿㔴意溢獈痬睪竩䇼缢義肄裔裛詣骮勩嫕廙榏瘗膉蜴靾駅億㦉撎槸毅潩熠熤瘞蓺誼镒鹝鹢黓劓㘁圛墿嬑嬟嶧憶懌曀殪㵩澺
熼燚瘱瞖穓縊艗螠寱斁曎檍歝燡燱翳翼臆薏褹賹鮨癔贀鎰镱繶繹藙藝豷霬鯣鶂鶃㦤瀷譯議醳醷饐𡄻𥜥蘙鐿鷁鷊囈懿驛鷧鷾虉襼齸讛匇辷畩椬萟鶍籎丫圧压吖庘押枒垭鸦桠鸭埡孲椏鴉錏鴨壓鵶鐚牙伢厑岈厓玡芽笌蚜堐崕崖涯猚
琊瑘睚衙漄齖𪘲𤴓厊庌哑唖啞痖雅瘂𧧝蕥劜圠轧亚襾讶亜犽亞軋迓娅挜砑俹氩婭掗訝铔揠氬猰聐𦜖圔稏窫齾⺄乛呀哟唷喲倻掖暍椰噎潱蠮爷耶捓铘揶釾爺鋣擨鎁也吔冶埜野嘢漜壄业叶曳页曵夜抴邺亱枼頁晔枽烨㖡啘液谒堨殗
腋楪業葉鄓馌僷歋墷䈎靥嶪嶫擛曄曅澲燁𦠜謁鄴餣嚈擫曗皣瞱鍱擪瞸礏䊦鎑饁鵺爗鐷靨驜鸈亪幺夭吆妖枖殀祅訞喓楆腰葽䌁䙅鴁邀爻尧尭肴垚姚峣䂚轺倄烑珧窑傜堯揺谣軺㑾嗂媱徭愮搖摇猺㨱暚榣瑤瑶遙遥銚飖餆嶢嶤窯窰䔄
餚繇謠謡𦾾鎐鳐䬙颻蘨邎顤鰩仸宎岆抭杳狕咬柼苭眑窅窈舀偠婹崾溔榚蓔鴢鼼闄騕齩鷕穾要钥𥁒药窔袎筄詏葯熎覞靿獟鹞𥪯薬曜燿艞矅藥耀纅鷂讑鑰优忧攸呦怮泑幽悠逌麀滺憂優嚘瀀鄾櫌纋耰尢尤由沋犹㽕𣏞油肬邮怣斿疣峳
浟秞䍃铀偤莜莸蚰訧游猶逰郵鱿楢猷遊鈾鲉輏駀蝣魷蕕輶鮋櫾友有丣卣酉苃㶭羑庮栯羐梄聈脜莠铕湵蜏禉銪䬀槱牖黝懮⺀又右幼佑侑狖糿哊囿姷宥峟柚牰诱唀祐迶䀁蚴亴貁釉酭誘鼬孧蒏牗恹剦烟珚胭偣啱崦㤿淊淹焉焑䞛阉湮
猒腌菸煙硽嫣漹䅧鄢醃閹嬮懨篶懕臙黫讠严言訁岩延昖沿炎芫妍姸研娮盐娫狿琂硏郔閆阎嵒嵓湺莚塩揅楌䇾詽碞筵綖蜒蔅颜虤閻厳檐顏顔壛簷嚴巌櫩黬巗壧孍巖鹽礹麣夵抁沇乵兖奄俨兗匽弇衍偃厣掩眼酓嵃愝扊揜㭺棪渰渷琰
萒郾椼罨遃隒演裺嶖戭蝘褗噞躽魇縯檿験黡厴𥀬鰋鶠黤齞龑甗黭儼顩鼴巘巚鼹曮魘齴黶厌闫妟觃牪咽姲彥彦砚唁宴晏艳覎验偐焔谚喭堰敥烻焰焱硯隁雁傿椻溎滟葕鳫厭墕暥酽嬊谳𩃀餍鴈㷳㷼燄燕諺赝䢭鬳曕鴳騐嚥嬿艶贋酀䨄
䳡㬫曣爓醶騴鷃灔贗觾讌醼饜驗鷰艷𪙊灎驠灧讞豓釅豔灩樮熖軅欕囙因阥阴侌垔姻㧢洇音骃栶殷氤茵凐婣䄄秵荫铟陰喑堙愔筃絪裀陻隂歅溵慇摿瘖禋銦緸蔭鞇諲霒𩃬駰噾闉霠㶏韾冘乑㕂吟犾斦苂垠泿㖗圁峾烎狺珢訔訚婬寅崟
崯淫荶訡银鈝龂滛碒夤鄞銀噖殥璌蔩誾嚚檭蟫䴦霪齗鷣乚𠃊廴尹引吲饮蚓赺淾鈏隐飲靷飮朄輑隠磤趛瘾嶾檃濥濦螾隱櫽蘟癮讔印洕胤垽茚堷湚猌廕蒑酳慭憖憗癊鮣㡥懚檼䕃粌央咉姎抰泱殃胦眏秧鸯鉠雵鞅鴦扬羊旸杨炀阦阳飏
佯劷氜疡钖垟徉昜洋羏烊珜𦭵眻崵崸揚蛘陽敭暘楊煬瘍禓㬕諹輰鍚鴹颺鐊鰑霷鸉仰佒坱岟养柍炴氧痒紻傟軮慃楧氱蝆養駚㔦懩攁䑆癢怏恙样羕詇様漾樣瀁奍羪礢应応英桜偀啨婴绬莺𠸄𡎘媖渶䣐嫈朠煐瑛嘤撄碤缨罂賏锳樱璎甇
緓蝧罃褮鍈鴬鹦嬰應膺霙韺鹰甖鶑嚶孆孾攖罌譍鶧櫻瓔礯蘡譻鶯鑍纓蠳鷪鷹鸎鸚盁迎盈茔荧営莹蛍𨜏溁溋萤萦僌塋楹滢营萾潆熒蓥蝇瑩䊔蝿嬴縈螢濙濚濴營覮謍赢瀅藀鎣攍瀛瀠蠅𢥏瀯瀴贏櫿籝籯矨浧郢梬颍颕颖摬䬬影潁璄瘿
穎頴巊廮癭映硬媵暎膡噟鞕鐛鱦珱愥縄攚灐灜軈乌圬弙汙汚污呜巫杇邬屋洿诬钨烏剭窏嗚鄔歍誣箼螐鴮鎢鰞无毋吳吴吾呉芜唔娪洖浯郚梧珸茣莁無祦铻鹀蜈誈禑璑蕪蟱鯃鵐譕鼯鷡五午仵伍妩庑忤怃旿㬳武玝侮俉倵捂啎娬牾珷
摀碔鹉熓瑦舞嫵廡憮潕儛橆甒鵡躌兀勿㐳务戊伆屼扤阢坞岉杌忢物矹芴迕卼敄误悞悟悮粅務晤焐逜婺嵍痦靰骛塢奦嵨溩隖雺雾寤熃誤鹜鋈窹遻䨁霚鼿霧騖齀蘁鶩乄錻穵劸挖洼娲畖窊媧蛙嗗搲溛漥窪鼃攨娃瓦佤咓㧚邷聉袜嗢腽
膃襪韈韤屲哇瓲挝倭涡唩涹莴渦猧窝萵蜗窩蝸踒撾我婐捰䰀仴沃肟卧枂臥偓捾涴媉幄握渥焥硪楃腛斡瞃𠿟擭濣龌瓁臒雘齷歪喎竵崴外𠰻夞顡危威𠳿烓偎喴㙎媙愄揋揻渨萎逶隇隈微椳楲溦煨葨葳詴蜲蝛覣燰薇鳂鰃鰄巍囗韦圩围
帏沩闱违峗峞洈韋桅涠唯帷惟硙维喡圍媁幃湋溈琟鄬嵬違潍維潙潿磑蓶醀濰鍏闈鮠癓䉠覹霺欈犩厃伟伪尾纬委㭏炜玮芛苇洧娓屗浘诿偉偽崣梶痏硊荱寪嵔徫愇猥骩暐椲煒瑋痿䇻腲艉葦蒍韪骪骫僞鲔儰撱磈𥯤緯諉踓韑頠㬙蔿𨗨
鍡鮪濻薳韙颹壝瀢蘤韡斖卫为未位味為畏胃苿叞軎尉谓喂媦渭㷉爲猬菋煟碨蜼慰熭犚緭蔚蝟衛懀璏罻衞謂餧鮇螱褽餵轊魏藯鏏霨鳚饖蘶讆躗䲁讏躛捤煀墛縅嶶弯剜婠帵塆湾蜿潫豌彎壪灣丸刓汍纨完岏抏芄玩紈捖顽烷琓頑䯈翫
宛倇唍挽盌埦婉惋晚晩梚绾脘晼椀琬皖菀萖畹睕碗綩綰輓踠鋄鋔䩊㜶万卍卐妧忨捥脕貦腕萬輐澫錽薍蟃贃鎫䥑贎邜杤笂昷温塭㬈榅溫辒殟瑥瘟蕰輼豱轀鳁鞰𩥈鰛鰮匁文彣纹炆玟芠闻紋蚉蚊珳阌琝雯瘒聞馼駇魰鳼鴍螡閺閿蟁闅
鼤闦刎吻忟抆呡肳紊桽脗稳穏穩问妏汶問渂莬揾搵顐璺呚鈫鎾𡯁尣尩尪尫汪亡亾兦王仼彺蚟莣㓁罒网往徃枉罔徍惘暀棢菵蛧辋網蝄誷輞瀇魍妄忘旺盳迋望朢䤑焹翁嗡滃鹟螉鎓鶲㘢勜奣塕嵡暡䐥蓊瞈聬㜲瓮蕹甕罋齆扜纡迂迃穻
紆虶陓唹淤盓毺瘀箊亐于伃㚥㬰邘余妤扵杅欤玗玙於盂臾鱼乻俞兪禺竽䍂衧娛娯娱桙狳舁茰谀酑馀渔雩魚堣堬崳嵎嵛㥥愉揄楰渝湡畭硢腴萸隅愚旕㬂楡榆歈牏瑜艅萮虞觎逾骬漁睮窬歶羭䐳蝓褕諛雓餘䰻澞舆蕍覦踰嬩螸輿鍝𨨶
歟璵謣鮽騟髃旟籅蘛鰅䲣鷠鸆与予伛宇屿羽⻗雨俁俣禹语圄峿偊㔱匬圉庾敔祤㝢斞鄅傴寙楀瑀瘐萭㣃與語窳鋙頨龉噳貐嶼懙㦛斔麌蘌齬肀玉驭圫聿妪忬芋芌饫育㤢昱狱秗郁俼峪彧浴砡茟钰预域堉御悆惐欲淢淯谕阈喅喐喩喻媀
寓庽棛棜棫焴琙矞硲𦱀逳飫馭鹆愈毓滪煜㽣稢罭艈裕誉遇鈺預嫗嶎戫獄瘉䈅䋭緎蒮蓣蜟蜮䘻輍銉噊慾潏稶蓹鋊鳿𢒰澦燏禦諭豫遹錥閾鴥鴪儥𡒊燠篽蕷薁鹬癒礇礖繘𧑐醧魊鵒礜穥饇櫲霱譽轝鐭欎驈鬻籞鱊鷸欝鸒龥軉鬰鬱灪籲爩
挧荢澚鯲曰曱约約箹彟矱彠⺝月戉刖妜岄抈𡛟岳玥礿恱䆕悅悦蚎蚏軏钺阅捳跀跃䡇粤越鈅粵鉞䤦閱閲樾篗嬳嶽𩓥龠㜰㬦瀹籆黦爚蘥躍禴籥鸑籰鸙囦鸢剈冤悁眢鸳寃淵渁渆渊渕惌棩㾓葾蜎鹓箢蒬蜵裷鳶䡝駌鴛嬽䥉鵷灁鼘鼝元円
贠员园沅邧杬垣爰貟原員圆笎蚖袁厡圎援湲猨缘茒鼋園圓塬媴嫄源溒猿獂榞榬蒝辕緣縁蝝蝯魭䲮橼羱螈薗謜轅黿鎱櫞邍騵鶢鶰厵远盶逺遠鋺夗肙妴㭇怨苑垸衏院傆媛掾瑗愿禐裫褑噮褤願酛鈨晕缊暈煴蒀奫氲氳蒕縕蝹赟頵贇馧
云勻匀囩妘沄纭昀芸畇眃秐涢紜耘耺郧雲愪溳筠筼鄖榲熉蒷澐鋆橒篔縜蕓饂允夽抎狁阭陨殒荺喗䤞鈗隕殞馻磒褞賱霣齳孕枟运恽郓酝傊惲愠鄆慍腪運韫韵熅熨緷緼䲰蕴醖薀醞餫韗藴韞韻蘊抣繧佣拥痈邕庸傭嗈雍墉嫞慵滽鄘槦
噰壅擁澭郺镛臃癕雝鏞鳙廱灉饔鱅鷛癰喁揘牅颙顒鰫永甬咏泳俑勇勈栐埇悀柡涌恿㴄傛惥愑湧硧詠塎嵱彮愹蛹慂踊禜鲬踴鯒用苚醟怺砽&(一)<<<㈠&(七)<<<㈦&(三)<<<㈢&(九)<<<㈨
&(二)<<<㈡&(五)<<<㈤&(代)<<<㈹&(企)<<<㈽&(休)<<<㉁&(八)<<<㈧&(六)<<<㈥&(労)<<<㈸&(十)<<<㈩&(協)<<<㈿&(名)<<<㈴&(呼)<<<㈺
&(四)<<<㈣&(土)<<<㈯&(学)<<<㈻&(日)<<<㈰&(月)<<<㈪&(有)<<<㈲&(木)<<<㈭&(株)<<<㈱&(水)<<<㈬&(火)<<<㈫&(特)<<<㈵&(監)<<<㈼
&(社)<<<㈳&(祝)<<<㈷&(祭)<<<㉀&(自)<<<㉂&(至)<<<㉃&(財)<<<㈶&(資)<<<㈾&(金)<<<㈮&0点<<<㍘&10日<<<㏩&10月<<<㋉&10点<<<㍢
&11日<<<㏪&11月<<<㋊&11点<<<㍣&12日<<<㏫&12月<<<㋋&12点<<<㍤&13日<<<㏬&13点<<<㍥&14日<<<㏭&14点<<<㍦&15日<<<㏮&15点<<<㍧
&16日<<<㏯&16点<<<㍨&17日<<<㏰&17点<<<㍩&18日<<<㏱&18点<<<㍪&19日<<<㏲&19点<<<㍫&1日<<<㏠&1月<<<㋀&1点<<<㍙&20日<<<㏳
&20点<<<㍬&21日<<<㏴&21点<<<㍭&22日<<<㏵&22点<<<㍮&23日<<<㏶&23点<<<㍯&24日<<<㏷&24点<<<㍰&25日<<<㏸&26日<<<㏹&27日<<<㏺
&28日<<<㏻&29日<<<㏼&2日<<<㏡&2月<<<㋁&2点<<<㍚&30日<<<㏽&31日<<<㏾&3日<<<㏢&3月<<<㋂&3点<<<㍛&4日<<<㏣&4月<<<㋃&4点<<<㍜
&5日<<<㏤&5月<<<㋄&5点<<<㍝&6日<<<㏥&6月<<<㋅&6点<<<㍞&7日<<<㏦&7月<<<㋆&7点<<<㍟&8日<<<㏧&8月<<<㋇&8点<<<㍠&9日<<<㏨&9月<<<㋈
&9点<<<㍡&〔三〕<<<🉁&〔二〕<<<🉂&〔勝〕<<<🉇&〔安〕<<<🉃&〔打〕<<<🉅&〔敗〕<<<🉈&〔本〕<<<🉀&〔点〕<<<🉄&〔盗〕<<<🉆&一<<<⼀&一<<<㆒&一<<<㊀
&一<<<🈩&丁<<<㆜&七<<<㊆&三<<<㆔&三<<<㊂&三<<<🈪&上<<<㆖&上<<<㊤&下<<<㆘&下<<<㊦&丙<<<㆛&丨<<<⼁&中<<<㆗&中<<<㊥&中<<<🈭&丶<<<⼂
&丿<<<⼃&乙<<<⼄&乙<<<㆚&九<<<㊈&亅<<<⼅&二<<<⼆&二<<<㆓&二<<<㊁&二<<<🈔&五<<<㊄&亠<<<⼇&交<<<🈘&人<<<⼈&人<<<㆟&企<<<㊭&休<<<㊡
&優<<<㊝&儿<<<⼉&入<<<⼊&八<<<⼋&八<<<㊇&六<<<㊅&冂<<<⼌&再<<<🈞&冖<<<⼍&写<<<㊢&冫<<<⼎&几<<<⼏&凵<<<⼐&刀<<<⼑&初<<<🈠&前<<<🈜
&割<<<🈹&力<<<⼒&労<<<㊘&勹<<<⼓&匕<<<⼔&匚<<<⼕&匸<<<⼖&医<<<㊩&十<<<⼗&十<<<〸&十<<<㊉&卄<<<〹&卅<<<〺&協<<<㊯&卜<<<⼘&卩<<<⼙
&印<<<㊞&厂<<<⼚&厶<<<⼛&又<<<⼜&双<<<🈒&口<<<⼝&可<<<🉑&右<<<㊨&右<<<🈮&合<<<🈴&名<<<㊔&吹<<<🈥&問<<<㉄&営<<<🈺&囗<<<⼞&四<<<㆕
&四<<<㊃&土<<<⼟&土<<<㊏&地<<<㆞&士<<<⼠&声<<<🈤&夂<<<⼡&夊<<<⼢&夕<<<⼣&多<<<🈕&夜<<<㊰&大<<<⼤&大正<<<㍽&天<<<㆝&天<<<🈗&女<<<⼥
&女<<<㊛&子<<<⼦&字<<<🈑&学<<<㊫&宀<<<⼧&宗<<<㊪&寸<<<⼨&小<<<⼩&尢<<<⼪&尸<<<⼫&屮<<<⼬&山<<<⼭&巛<<<⼮&工<<<⼯&左<<<㊧&左<<<🈬
&己<<<⼰&巾<<<⼱&干<<<⼲&平成<<<㍻&幺<<<⼳&幼<<<㉅&广<<<⼴&廴<<<⼵&廾<<<⼶&弋<<<⼷&弓<<<⼸&彐<<<⼹&彡<<<⼺&彳<<<⼻&後<<<🈝&得<<<🉐
&心<<<⼼&戈<<<⼽&戶<<<⼾&手<<<⼿&手<<<🈐&打<<<🈱&投<<<🈧&指<<<🈯&捕<<<🈨&支<<<⽀&攴<<<⽁&文<<<⽂&文<<<㉆&斗<<<⽃&料<<<🈛&斤<<<⽄
&新<<<🈟&方<<<⽅&无<<<⽆&日<<<⽇&日<<<㊐&明治<<<㍾&映<<<🈙&昭和<<<㍼&曰<<<⽈&月<<<⽉&月<<<㊊&月<<<🈷&有<<<㊒&有<<<🈶&木<<<⽊&木<<<㊍
&株<<<㊑&株式会社<<<㍿&欠<<<⽋&止<<<⽌&正<<<㊣&歹<<<⽍&殳<<<⽎&毋<<<⽏&母<<<⺟&比<<<⽐&毛<<<⽑&氏<<<⽒&气<<<⽓&水<<<⽔&水<<<㊌
&注<<<㊟&満<<<🈵&演<<<🈦&火<<<⽕&火<<<㊋&無<<<🈚&爪<<<⽖&父<<<⽗&爻<<<⽘&爿<<<⽙&片<<<⽚&牙<<<⽛&牛<<<⽜&特<<<㊕&犬<<<⽝&玄<<<⽞
&玉<<<⽟&瓜<<<⽠&瓦<<<⽡&甘<<<⽢&生<<<⽣&生<<<🈢&用<<<⽤&田<<<⽥&甲<<<㆙&申<<<🈸&男<<<㊚&疋<<<⽦&疒<<<⽧&癶<<<⽨&白<<<⽩&皮<<<⽪
&皿<<<⽫&監<<<㊬&目<<<⽬&矛<<<⽭&矢<<<⽮&石<<<⽯&示<<<⽰&社<<<㊓&祝<<<㊗&禁<<<🈲&禸<<<⽱&禾<<<⽲&秘<<<㊙&穴<<<⽳&空<<<🈳&立<<<⽴
&竹<<<⽵&箏<<<㉇&米<<<⽶&糸<<<⽷&終<<<🈡&缶<<<⽸&网<<<⽹&羊<<<⽺&羽<<<⽻&老<<<⽼&而<<<⽽&耒<<<⽾&耳<<<⽿&聿<<<⾀&肉<<<⾁&臣<<<⾂
&自<<<⾃&至<<<⾄&臼<<<⾅&舌<<<⾆&舛<<<⾇&舟<<<⾈&艮<<<⾉&色<<<⾊&艸<<<⾋&虍<<<⾌&虫<<<⾍&血<<<⾎&行<<<⾏&衣<<<⾐&襾<<<⾑&見<<<⾒
&角<<<⾓&解<<<🈖&言<<<⾔&谷<<<⾕&豆<<<⾖&豕<<<⾗&豸<<<⾘&貝<<<⾙&財<<<㊖&販<<<🈣&資<<<㊮&赤<<<⾚&走<<<⾛&走<<<🈰&足<<<⾜&身<<<⾝
&車<<<⾞&辛<<<⾟&辰<<<⾠&辵<<<⾡&遊<<<🈫&適<<<㊜&邑<<<⾢&酉<<<⾣&釆<<<⾤&里<<<⾥&金<<<⾦&金<<<㊎&長<<<⾧&門<<<⾨&阜<<<⾩&隶<<<⾪
&隹<<<⾫&雨<<<⾬&靑<<<⾭&非<<<⾮&面<<<⾯&革<<<⾰&韋<<<⾱&韭<<<⾲&音<<<⾳&頁<<<⾴&項<<<㊠&風<<<⾵&飛<<<⾶&食<<<⾷&首<<<⾸&香<<<⾹
&馬<<<⾺&骨<<<⾻&高<<<⾼&髟<<<⾽&鬥<<<⾾&鬯<<<⾿&鬲<<<⿀&鬼<<<⿁&魚<<<⿂&鳥<<<⿃&鹵<<<⿄&鹿<<<⿅&麥<<<⿆&麻<<<⿇&黃<<<⿈&黍<<<⿉
&黑<<<⿊&黹<<<⿋&黽<<<⿌&鼎<<<⿍&鼓<<<⿎&鼠<<<⿏&鼻<<<⿐&齊<<<⿑&齒<<<⿒&龍<<<⿓&龜<<<⿔&龟<<<⻳&龠<<<⿕"

end Collation

end StyleHost
